import GpuDriver.Session.Object
import GpuDriver.Table

/-!
# Sessions

A session keeps owned objects in named slots. An object that is put into a slot which already holds one
replaces it, and the old one is dropped once the new one is there. When a session ends, what is left is
dropped in the order of the slots' names.
-/

namespace GpuDriver

/-- A world with owned objects in slots. -/
structure Session (σ : Type) where
  /-- The world. -/
  world : World σ
  /-- The owned objects. -/
  slots : Table String Session.Object := .empty

namespace Session

variable {σ : Type} (p : Platform σ) (t : ThreadId)

/-- Something that is done in a session. -/
inductive Operation
  /-- Starts the driver. -/
  | init (flags : Nat)
  /-- Makes a context current, or takes the top off the thread's stack. -/
  | setCurrentContext (context : Option Handle)
  /-- Makes an object and puts it into a slot. -/
  | make (slot : String) (making : Making)
  /-- Uses the object in a slot. -/
  | use (slot : String) (way : Use)
  /-- Takes the object out of a slot and gives it back. -/
  | destroy (slot : String)
  /-- Takes the object out of a slot and drops it. -/
  | drop (slot : String)
  /-- Takes the object out of a slot and never gives it back. -/
  | forget (slot : String)
  /-- Links a PTX text. -/
  | linkPtx (text name : String)
  /-- Compiles a source. -/
  | compile (compiler : Compile.Compiler) (source : String) (options : List String)
      (arch filename : String)

/-- What an operation is answered with. -/
abbrev Operation.Value : Operation → Type
  | .make .. => Object
  | .use _ way => way.Value
  | .linkPtx .. => Bytes
  | .compile .. => Compile.Code
  | _ => Unit

/-- An action in the world of a session. -/
def acting {α : Type} (act : Act σ Compile.Error α) (s : Session σ) :
    Except Refusal α × Session σ :=
  match act s.world with
  | (.ok a, world) => (.ok a, { s with world })
  | (.error e, world) => (.error (.failed e), { s with world })

/-- Makes an object and puts it into a slot. -/
def put (slot : String) (making : Making) (s : Session σ) :
    Except Refusal Object × Session σ :=
  match making.run p t s.world with
  | (.error e, world) => (.error (.failed e), { s with world })
  | (.ok o, world) =>
    match s.slots.get? slot with
    | none => (.ok o, ⟨world, s.slots.insert slot o⟩)
    | some old => (.ok o, ⟨old.drop p t world, s.slots.insert slot o⟩)

/-- Uses the object in a slot. -/
def useAt (slot : String) (way : Use) (s : Session σ) : Except Refusal way.Value × Session σ :=
  match s.slots.get? slot with
  | none => (.error .emptySlot, s)
  | some o =>
    match o.use p t way s.world with
    | (answer, o, world) => (answer, ⟨world, s.slots.insert slot o⟩)

/-- Takes the object out of a slot. -/
def taking {α : Type} (slot : String)
    (next : Object → Session σ → Except Refusal α × Session σ) (s : Session σ) :
    Except Refusal α × Session σ :=
  match s.slots.get? slot with
  | none => (.error .emptySlot, s)
  | some o => next o { s with slots := s.slots.erase slot }

/-- The answer to an operation done on a thread, and the session after it. -/
def step : (o : Operation) → Session σ → Except Refusal o.Value × Session σ
  | .init flags => acting ((Driver.init p t flags).mapError ofCall)
  | .setCurrentContext c => acting ((Driver.setCurrentContext p t c).mapError ofCall)
  | .make slot making => put p t slot making
  | .use slot way => useAt p t slot way
  | .destroy slot => taking slot fun o s => acting (o.destroy p t) s
  | .drop slot => taking slot fun o s => (.ok (), { s with world := o.drop p t s.world })
  | .forget slot => taking slot fun _ s => (.ok (), s)
  | .linkPtx text name => acting ((Owned.linkPtx p t text name).mapError .driver)
  | .compile compiler source options arch filename =>
    acting (Compile.compile p source options arch filename compiler)

/-- Drops the objects in the given slots, in order. -/
def dropSlots : List String → Session σ → Session σ
  | [], s => s
  | slot :: rest, s => dropSlots rest (step p t (.drop slot) s).2

/-- The session after its end: everything is dropped in the order of the slots' names. -/
def finish (s : Session σ) : Session σ :=
  dropSlots p t (s.slots.keys.mergeSort fun a b => decide (a ≤ b)) s

end Session

end GpuDriver
