import GpuDriver.Owned.Driver

/-!
# Owned link sessions

A link session collects images and links them to one. It counts what the driver has accepted. PTX is
handed over with a NUL at its end. A session that was ended on request is dropped without its handle.
-/

namespace GpuDriver.Owned

variable {σ : Type} (p : Platform σ) (t : ThreadId)

/-- A link session that is ended when it is dropped. -/
structure LinkSession where
  /-- The driver's handle. -/
  handle : Handle
  /-- How many images were accepted. -/
  inputCount : Nat
deriving DecidableEq, Repr

namespace LinkSession

/-- Begins a link session. -/
def create : Act σ CallError LinkSession := do
  let handle ← p.call t .createLink
  return ⟨handle, 0⟩

/-- What is handed to the driver for an image. -/
def handedOver (kind : ImageKind) (data : Bytes) : Bytes :=
  if kind = .ptx ∧ data.getLast? ≠ some 0 then data ++ [0] else data

/-- Adds an image under a name, which the driver uses in its messages. -/
def add (l : LinkSession) (kind : ImageKind) (data : Bytes) (name : String) :
    Act σ Error LinkSession := do
  let name ← Act.ofExcept (Driver.nameOctets name)
  (p.call t (.addLinkInput l.handle kind (handedOver kind data) name)).mapError .call
  return { l with inputCount := l.inputCount + 1 }

/-- Adds a PTX text. -/
def addPtx (l : LinkSession) (text name : String) : Act σ Error LinkSession :=
  l.add p t .ptx (Utf8.encode text) name

/-- Links what was added. -/
def complete (l : LinkSession) : Act σ CallError Bytes := p.call t (.completeLink l.handle)

/-- The world after the session was dropped. -/
def drop (l : LinkSession) (w : World σ) : World σ :=
  if l.handle = 0 then w
  else match p.call t (.destroyLink l.handle) w with
    | (.ok (), w) => w
    | (.error e, w) =>
      w.warn ("failed to destroy link state " ++ Text.hexLiteral l.handle ++ ": " ++ e.message)

/-- What is left of the session once its handle was taken. -/
def taken (l : LinkSession) : LinkSession := { l with handle := 0 }

/-- Ends the session now, and drops what is left of it. -/
def destroy (l : LinkSession) : Act σ CallError Unit :=
  (p.call t (.destroyLink l.handle)).thenClean (l.taken.drop p t)

@[simp] theorem drop_taken (l : LinkSession) (w : World σ) : l.taken.drop p t w = w := if_pos rfl

/-- The drop after a session was ended adds nothing. -/
theorem destroy_eq (l : LinkSession) : l.destroy p t = p.call t (.destroyLink l.handle) :=
  Act.thenClean_eq_self (l.drop_taken p t)

end LinkSession

/-- Links a single PTX text, in a session that does not outlive this. -/
def linkPtx (text name : String) : Act σ Error Bytes := do
  let link ← (LinkSession.create p t).mapError .call
  let image ← (do
    let link ← link.addPtx p t text name
    (link.complete p t).mapError .call : Act σ Error Bytes).orElseClean (link.drop p t)
  (link.destroy p t).mapError .call
  return image

end GpuDriver.Owned
