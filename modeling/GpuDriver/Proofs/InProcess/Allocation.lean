import GpuDriver.Proofs.InProcess.Written

/-!
# Device memory over whole runs

Every load takes device memory behind what all loads before it took, for as many of its variables as
still fit (`fitting`); nothing is ever given back. So what is taken in a run lies in a row from the cursor
before it to the cursor after it (`laid_takenIn`), and wherever the driver says that a variable is, memory
was taken for it (`globals_run`).
-/

namespace GpuDriver

/-- The address belongs to the variable; one of no octets has the address that it is at. -/
def Allocation.Covers (a : Allocation) (x : Address) : Prop :=
  a.address ≤ x ∧ x < a.address + max a.bytes 1

/-- No address belongs to both variables. -/
def Allocation.Apart (a b : Allocation) : Prop := ∀ x, ¬ (a.Covers x ∧ b.Covers x)

theorem Allocation.Apart.symm {a b : Allocation} (h : a.Apart b) : b.Apart a :=
  fun x covered => h x covered.symm

namespace InProcess

open State

/-! ### Variables in a row -/

/-- The variables lie one behind the other, each in the octets that it is given, from `start` to
`stop`. -/
inductive Laid : Address → List Allocation → Address → Prop
  | nil (start : Address) : Laid start [] start
  | cons {start stop : Address} {bytes : Nat} {rest : List Allocation}
      (fits : start + reserved bytes < Text.wordBound)
      (behind : Laid (start + reserved bytes) rest stop) : Laid start (⟨start, bytes⟩ :: rest) stop

theorem max_le_reserved (bytes : Nat) : max bytes 1 ≤ reserved bytes := by
  unfold reserved memoryUnit
  omega

/-- A variable is apart from what is behind the octets that it is given. -/
theorem apart_of_le {a b : Allocation} (behind : a.address + reserved a.bytes ≤ b.address) :
    a.Apart b := by
  rintro x ⟨⟨-, below⟩, ⟨above, -⟩⟩
  have room : max a.bytes 1 ≤ reserved a.bytes := max_le_reserved a.bytes
  lia

theorem dvd_reserved (bytes : Nat) : memoryUnit ∣ reserved bytes := Nat.dvd_mul_left _ _

namespace Laid

variable {start mid stop : Address} {as bs : List Allocation}

theorem append (h : Laid start as mid) (h' : Laid mid bs stop) : Laid start (as ++ bs) stop := by
  induction h with
  | nil => exact h'
  | cons fits _ ih => exact .cons fits (ih h')

theorem le (h : Laid start as stop) : start ≤ stop := by
  induction h with
  | nil => apply Nat.le_refl
  | cons fits _ ih => exact Nat.le_trans (Nat.le_add_right _ _) ih

theorem stop_lt (h : Laid start as stop) (room : start < Text.wordBound) :
    stop < Text.wordBound := by
  induction h with
  | nil => exact room
  | cons fits _ ih => exact ih fits

/-- Each variable lies between the two ends, and what it is given does not reach past the last
address. -/
theorem bounds (h : Laid start as stop) {a : Allocation} (ha : a ∈ as) :
    start ≤ a.address ∧ a.address + reserved a.bytes ≤ stop ∧
      a.address + reserved a.bytes < Text.wordBound := by
  induction h with
  | nil => cases ha
  | cons fits behind ih =>
    cases ha with
    | head => exact ⟨Nat.le_refl _, behind.le, fits⟩
    | tail _ ha =>
      obtain ⟨above, below, inside⟩ := ih ha
      exact ⟨Nat.le_trans (Nat.le_add_right _ _) above, below, inside⟩

theorem aligned (h : Laid start as stop) (hs : memoryUnit ∣ start) {a : Allocation} (ha : a ∈ as) :
    memoryUnit ∣ a.address := by
  induction h with
  | nil => cases ha
  | cons fits behind ih =>
    cases ha with
    | head => exact hs
    | tail _ ha => exact ih ((Nat.dvd_add_iff_right hs).1 (dvd_reserved _)) ha

theorem pairwise_apart (h : Laid start as stop) : as.Pairwise Allocation.Apart := by
  induction h with
  | nil => apply List.Pairwise.nil
  | cons fits behind ih =>
    exact List.pairwise_cons.2 ⟨fun b hb => apart_of_le (behind.bounds hb).1, ih⟩

end Laid

/-! ### Variables that fit -/

/-- The variables up to the first that does not fit behind those in front of it. -/
def fitting (cursor : Address) : List Ptx.Global → List Ptx.Global
  | [] => []
  | g :: rest =>
    if cursor + reserved g.bytes < Text.wordBound then
      g :: fitting (cursor + reserved g.bytes) rest
    else []

theorem laid_fitting (cursor : Address) (globals : List Ptx.Global) :
    Laid cursor ((allocations cursor (fitting cursor globals)).map (·.2))
      (cursor + reservedFor (fitting cursor globals)) := by
  induction globals generalizing cursor with
  | nil => apply Laid.nil
  | cons g rest ih =>
    rw [fitting]
    split
    · rename_i fits
      rw [reservedFor_cons, ← Nat.add_assoc]
      exact .cons fits (ih _)
    · apply Laid.nil

theorem advance?_eq_none_iff {cursor bytes : Nat} :
    advance? cursor bytes = none ↔ Text.wordBound ≤ cursor + reserved bytes := by
  constructor
  · intro none
    apply Nat.le_of_not_lt
    intro fits
    rw [advance?_eq_some_iff.2 ⟨rfl, fits⟩] at none
    cases none
  · intro full
    cases h : advance? cursor bytes with
    | none => rfl
    | some next => exact absurd (advance?_eq_some_iff.1 h).2 (Nat.not_lt.2 full)

/-- The cursor ends behind the variables that fit. -/
theorem snd_place (cursor : Address) (placed : Table String Allocation)
    (globals : List Ptx.Global) :
    (place cursor placed globals).2 = cursor + reservedFor (fitting cursor globals) := by
  induction globals generalizing cursor placed with
  | nil => rfl
  | cons g rest ih =>
    rw [place, fitting]
    split
    · rename_i none
      rw [if_neg (Nat.not_lt.2 (advance?_eq_none_iff.1 none))]
      rfl
    · rename_i next some
      obtain ⟨rfl, fits⟩ := advance?_eq_some_iff.1 some
      rw [if_pos fits, ih, reservedFor_cons, Nat.add_assoc]

theorem fitting_eq_self {cursor : Address} {globals : List Ptx.Global}
    (fits : cursor + reservedFor globals < Text.wordBound) : fitting cursor globals = globals := by
  induction globals generalizing cursor with
  | nil => rfl
  | cons g rest ih =>
    rw [reservedFor_cons, ← Nat.add_assoc] at fits
    rw [fitting, if_pos (Nat.lt_of_le_of_lt (Nat.le_add_right _ _) fits), ih fits]

/-- Placing fails exactly if the variables together do not fit. -/
theorem fst_place_eq_none_iff {cursor : Address} (room : cursor < Text.wordBound)
    (placed : Table String Allocation) (globals : List Ptx.Global) :
    (place cursor placed globals).1 = none ↔
      Text.wordBound ≤ cursor + reservedFor globals := by
  induction globals generalizing cursor placed with
  | nil =>
    constructor
    · intro h
      cases h
    · intro full
      exact absurd room (Nat.not_lt.2 full)
  | cons g rest ih =>
    rw [place, reservedFor_cons, ← Nat.add_assoc]
    cases h : advance? cursor g.bytes with
    | none =>
      have full := advance?_eq_none_iff.1 h
      simp only [true_iff]
      exact Nat.le_add_right_of_le full
    | some next =>
      obtain ⟨rfl, fits⟩ := advance?_eq_some_iff.1 h
      exact ih fits _

/-! ### What one event takes -/

/-- The image that an event hands to the driver to be loaded, if it can be read. -/
def Event.image? (e : Event) : Option Bytes :=
  match e.call with
  | .loadModuleData image => some image
  | .loadModule path => (Utf8.decode? path).bind fun _ => (e.files.read path).toOption
  | _ => none

/-- The variables that an image asks memory for: those of its text, if that is a module and the thread
has a context to load it in. -/
def State.wanted (s : State) (t : ThreadId) (image : Bytes) : List Ptx.Global :=
  match s.current t, imageText? image with
  | .ok _, some text => if Ptx.isModule text then (Ptx.symbols text).globals else []
  | _, _ => []

/-- The variables that an event asks memory for. -/
def State.requested (s : State) (e : Event) : List Ptx.Global :=
  match e.image? with
  | some image => s.wanted e.thread image
  | none => []

/-- The memory that an event takes. -/
def State.taken (s : State) (e : Event) : List Allocation :=
  (allocations s.nextAddress (fitting s.nextAddress (s.requested e))).map (·.2)

section Image

variable {s : State} {t : ThreadId} {image : Bytes}

/-- A load either has nothing to place and changes nothing, or it places the variables of a module. -/
theorem loadImage_cases (s : State) (t : ThreadId) (image : Bytes) :
    (s.wanted t image = [] ∧ ∃ e, e ≠ .outOfMemory ∧ s.loadImage t image = (.error e, s)) ∨
      ∃ c text, s.wanted t image = (Ptx.symbols text).globals ∧ s.loadImage t image =
        match place s.nextAddress .empty (Ptx.symbols text).globals with
        | (none, cursor) => (.error .outOfMemory, { s with nextAddress := cursor })
        | (some globals, cursor) =>
          let loaded :=
            addModule { s with nextAddress := cursor } c globals (Ptx.symbols text).entries
          (.ok loaded.1, loaded.2) := by
  unfold wanted loadImage
  cases hc : s.current t with
  | error e => exact Or.inl ⟨rfl, e, fun he => current_ne_outOfMemory (he ▸ hc), rfl⟩
  | ok c =>
    cases ht : imageText? image with
    | none => exact Or.inl ⟨rfl, .invalidImage, by decide, rfl⟩
    | some text =>
      dsimp only
      split
      · exact Or.inr ⟨c, text, rfl, rfl⟩
      · exact Or.inl ⟨rfl, .invalidImage, by decide, rfl⟩

theorem nextAddress_loadImage (s : State) (t : ThreadId) (image : Bytes) :
    (s.loadImage t image).2.nextAddress =
      s.nextAddress + reservedFor (fitting s.nextAddress (s.wanted t image)) := by
  obtain ⟨none, e, -, left⟩ | ⟨c, text, wanted, left⟩ := loadImage_cases s t image
  · rw [left, none]
    rfl
  · rw [left, wanted, ← snd_place s.nextAddress .empty]
    rcases place s.nextAddress .empty (Ptx.symbols text).globals with ⟨_ | _, _⟩ <;> rfl

theorem loadImage_outOfMemory_iff (room : s.nextAddress < Text.wordBound) :
    (s.loadImage t image).1 = .error .outOfMemory ↔
      Text.wordBound ≤ s.nextAddress + reservedFor (s.wanted t image) := by
  obtain ⟨none, e, other, left⟩ | ⟨c, text, wanted, left⟩ := loadImage_cases s t image
  · rw [left, none]
    constructor
    · intro h
      exact absurd (Except.error.inj h) other
    · intro full
      exact absurd room (Nat.not_lt.2 full)
  · rw [left, wanted, ← fst_place_eq_none_iff room .empty]
    rcases place s.nextAddress .empty (Ptx.symbols text).globals with ⟨_ | _, _⟩ <;> simp

/-- What a table of placed variables has is among those placed. -/
theorem mem_allocations_of_place {cursor stop : Address} (room : cursor < Text.wordBound)
    {globals : List Ptx.Global} {table : Table String Allocation}
    (placed : place cursor .empty globals = (some table, stop)) {name : String} {a : Allocation}
    (found : table.get? name = some a) :
    a ∈ (allocations cursor (fitting cursor globals)).map (·.2) := by
  have fits : cursor + reservedFor globals < Text.wordBound := by
    apply Nat.lt_of_not_le
    intro full
    rw [← fst_place_eq_none_iff room .empty, placed] at full
    cases full
  rw [place_of_fits fits] at placed
  obtain ⟨rfl, -⟩ : _ = table ∧ _ := by simpa using placed
  obtain ⟨x, hx, -, rfl⟩ | missing := Table.exists_of_get?_foldl_insert found
  · rw [fitting_eq_self fits]
    exact List.mem_map_of_mem hx
  · cases missing

/-- What a module has that was not there before the load is among what the load took. -/
theorem globals_loadImage (room : s.nextAddress < Text.wordBound) {m : Handle} {loaded : Module}
    (found : (s.loadImage t image).2.modules.get? m = some loaded) :
    s.modules.get? m = some loaded ∨ ∀ name a, loaded.globals.get? name = some a →
      a ∈ (allocations s.nextAddress (fitting s.nextAddress (s.wanted t image))).map (·.2) := by
  obtain ⟨-, e, -, left⟩ | ⟨c, text, wanted, left⟩ := loadImage_cases s t image
  · rw [left] at found
    exact Or.inl found
  rw [left] at found
  rw [wanted]
  rcases placed : place s.nextAddress .empty (Ptx.symbols text).globals with ⟨_ | table, cursor⟩
  · rw [placed] at found
    exact Or.inl found
  rw [placed] at found
  rcases Decidable.em (m = s.lastHandle + handleStep) with rfl | old
  · cases (Table.get?_insert_self ..).symm.trans found
    exact Or.inr fun name a => mem_allocations_of_place room placed
  · exact Or.inl ((Table.get?_insert_of_ne old _).symm.trans found)

end Image

/-- Loading from a file loads its image, if it can be read, and else fails without a trace. -/
theorem loadFile_image (s : State) (t : ThreadId) (files : FileTree) (path : Path) :
    (∃ image, (⟨t, files, .loadModule path⟩ : Event).image? = some image ∧
      s.loadFile t files path = s.loadImage t image) ∨
      (⟨t, files, .loadModule path⟩ : Event).image? = none ∧
        ∃ e, e ≠ .outOfMemory ∧ s.loadFile t files path = (.error e, s) := by
  have given : (⟨t, files, .loadModule path⟩ : Event).image? =
      (Utf8.decode? path).bind fun _ => (files.read path).toOption := rfl
  rw [given, loadFile]
  cases Utf8.decode? path with
  | none => exact Or.inr ⟨rfl, .invalidValue, by decide, rfl⟩
  | some _ =>
    cases files.read path with
    | error failure =>
      refine Or.inr ⟨rfl, ?_⟩
      cases hc : s.current t with
      | error e => exact ⟨e, fun he => current_ne_outOfMemory (he ▸ hc), rfl⟩
      | ok c => exact ⟨.fileNotFound, by decide, rfl⟩
    | ok image =>
      refine Or.inl ⟨image, rfl, ?_⟩
      cases hc : s.current t with
      | error e => simp only [loadImage, hc]
      | ok c => rfl

/-- Both kinds of loads load the image of the event, or there is none and nothing changes. -/
theorem load_image (s : State) {e : Event} (load : e.call.loads = true) :
    (∃ image, e.image? = some image ∧ s.after e = (s.loadImage e.thread image).2 ∧
      (s.reply e = .error .outOfMemory ↔
        (s.loadImage e.thread image).1 = .error .outOfMemory)) ∨
      e.image? = none ∧ s.after e = s ∧ s.reply e ≠ .error .outOfMemory := by
  obtain ⟨t, files, c⟩ := e
  cases c with
  | loadModuleData image => exact Or.inl ⟨image, rfl, rfl, Iff.rfl⟩
  | loadModule path =>
    obtain ⟨image, given, left⟩ | ⟨none, e, other, left⟩ := loadFile_image s t files path
    · refine Or.inl ⟨image, given, congrArg Prod.snd left, ?_⟩
      show (s.loadFile t files path).1 = .error .outOfMemory ↔ _
      rw [left]
    · refine Or.inr ⟨none, congrArg Prod.snd left, ?_⟩
      show (s.loadFile t files path).1 ≠ .error .outOfMemory
      rw [left]
      exact fun h => other (Except.error.inj h)
  | _ => cases load

/-! ### What other events leave -/

/-- The cursor of device memory is where it was, and no module is new. -/
structure Idle (s s' : State) : Prop where
  cursor : s'.nextAddress = s.nextAddress
  modules {m : Handle} {loaded : Module} (h : s'.modules.get? m = some loaded) :
    s.modules.get? m = some loaded

theorem Idle.refl (s : State) : Idle s s := ⟨rfl, id⟩

theorem idle_dropContext (s : State) (c : Handle) : Idle s (s.dropContext c) where
  cursor := rfl
  modules h := (Table.get?_filter_eq_some_iff.1 h).1

theorem idle_unloadModule (s : State) (m : Handle) : Idle s (s.unloadModule m).2 := by
  have dropped : Idle s (s.dropModule m).2 := ⟨rfl, fun h => (Table.get?_erase_eq_some_iff.1 h).2⟩
  rcases h : s.unloadModule m with ⟨e | u, s'⟩
  · obtain rfl | ⟨-, -, rfl⟩ := unloadModule_eq_error_cases h
    · exact .refl _
    · exact dropped
  · obtain ⟨-, -, rfl⟩ := unloadModule_eq_ok_iff.1 h
    exact dropped

/-- An event that loads nothing takes no memory. -/
theorem idle_after (s : State) {e : Event} (other : e.call.loads = false) : Idle s (s.after e) := by
  obtain ⟨t, files, c⟩ := e
  cases c with
  | init flags =>
    refine (keeps_init s flags).elim (.refl s) fun a s' h => ?_
    obtain ⟨-, -, rfl⟩ := init_eq_ok_iff.1 h
    exact ⟨rfl, id⟩
  | retainPrimary d =>
    refine (keeps_retainPrimary s d).elim (.refl s) fun c s' h => ?_
    obtain ⟨-, -, ⟨p, -, -, rfl⟩ | ⟨-, -, rfl⟩⟩ := retainPrimary_eq_ok_iff.1 h
    · exact ⟨rfl, id⟩
    · exact ⟨rfl, id⟩
  | releasePrimary d =>
    refine (keeps_releasePrimary s d).elim (.refl s) fun a s' h => ?_
    obtain ⟨-, -, p, -, ⟨-, rfl⟩ | ⟨-, rfl⟩⟩ := releasePrimary_eq_ok_iff.1 h
    · exact ⟨rfl, id⟩
    · exact { idle_dropContext s p.context with }
  | setCurrentContext c =>
    refine (keeps_setCurrentContext s t c).elim (.refl s) fun a s' h => ?_
    obtain ⟨-, ⟨-, rfl⟩ | ⟨-, -, rfl⟩⟩ := setCurrentContext_eq_ok_iff.1 h
    · exact ⟨rfl, id⟩
    · exact ⟨rfl, id⟩
  | createContext flags d =>
    refine (keeps_createContext s t flags d).elim (.refl s) fun c s' h => ?_
    obtain ⟨-, -, -, -, rfl⟩ := createContext_eq_ok_iff.1 h
    exact ⟨rfl, id⟩
  | destroyContext c =>
    refine (keeps_destroyContext s t c).elim (.refl s) fun a s' h => ?_
    obtain ⟨-, -, rfl⟩ := destroyContext_eq_ok_iff.1 h
    split
    · exact { idle_dropContext s c with }
    · exact idle_dropContext s c
  | createLink =>
    refine (keeps_createLink s t).elim (.refl s) fun l s' h => ?_
    obtain ⟨-, -, rfl⟩ := createLink_eq_ok_iff.1 h
    exact ⟨rfl, id⟩
  | addLinkInput l kind data name =>
    refine (keeps_addLinkInput s l kind data name).elim (.refl s) fun a s' h => ?_
    obtain ⟨-, inputs, text, -, -, -, -, rfl⟩ := addLinkInput_eq_ok_iff.1 h
    exact ⟨rfl, id⟩
  | destroyLink l =>
    refine (keeps_destroyLink s l).elim (.refl s) fun a s' h => ?_
    obtain ⟨-, -, rfl⟩ := destroyLink_eq_ok_iff.1 h
    exact ⟨rfl, id⟩
  | unloadModule m => exact idle_unloadModule s m
  | launch request =>
    refine (keeps_launch s t request).elim (.refl s) fun a s' h => ?_
    obtain ⟨c, f, buffer, -, -, -, -, -, -, -, -, rfl⟩ := launch_eq_ok_iff.1 h
    exact ⟨rfl, id⟩
  | loadModule | loadModuleData => cases other
  | version | deviceCount | device | deviceAttribute | currentContext | currentDevice
  | completeLink | function | global | errorName | errorText => exact .refl s

theorem taken_of_image?_eq_none {s : State} {e : Event} (none : e.image? = none) :
    s.taken e = [] := by
  unfold taken requested
  rw [none]
  rfl

theorem image?_eq_none_of_not_loads {e : Event} (other : e.call.loads = false) :
    e.image? = none := by
  obtain ⟨t, files, c⟩ := e
  cases c with
  | loadModule | loadModuleData => cases other
  | _ => rfl

/-! ### One event -/

section Event

variable {s : State} {e : Event}

/-- What an event takes begins at the cursor and ends where the cursor is then. -/
theorem laid_taken (s : State) (e : Event) :
    Laid s.nextAddress (s.taken e) (s.after e).nextAddress := by
  cases load : e.call.loads with
  | false =>
    rw [taken_of_image?_eq_none (image?_eq_none_of_not_loads load), (idle_after s load).cursor]
    exact .nil _
  | true =>
    obtain ⟨image, given, left, -⟩ | ⟨none, left, -⟩ := load_image s load
    · rw [left, nextAddress_loadImage, taken, requested, given]
      exact laid_fitting _ _
    · rw [taken_of_image?_eq_none none, left]
      exact .nil _

/-- What a module has that was not there before the event is among what the event took. -/
theorem globals_after (room : s.nextAddress < Text.wordBound) {m : Handle} {loaded : Module}
    (found : (s.after e).modules.get? m = some loaded) :
    s.modules.get? m = some loaded ∨
      ∀ name a, loaded.globals.get? name = some a → a ∈ s.taken e := by
  cases load : e.call.loads with
  | false => exact Or.inl ((idle_after s load).modules found)
  | true =>
    obtain ⟨image, given, left, -⟩ | ⟨none, left, -⟩ := load_image s load
    · rw [left] at found
      rw [taken, requested, given]
      exact globals_loadImage room found
    · rw [left] at found
      exact Or.inl found

/-- A load runs out of memory exactly if its variables together do not fit. -/
theorem outOfMemory_iff (room : s.nextAddress < Text.wordBound) (load : e.call.loads = true) :
    s.reply e = .error .outOfMemory ↔
      Text.wordBound ≤ s.nextAddress + reservedFor (s.requested e) := by
  obtain ⟨image, given, -, answered⟩ | ⟨none, -, answered⟩ := load_image s load
  · rw [answered, loadImage_outOfMemory_iff room, requested, given]
  · rw [requested, none]
    constructor
    · intro full
      exact absurd full answered
    · intro full
      exact absurd room (Nat.not_lt.2 full)

/-- If its variables fit, a load takes memory for each of them. -/
theorem map_bytes_taken (fits : s.nextAddress + reservedFor (s.requested e) < Text.wordBound) :
    (s.taken e).map (·.bytes) = (s.requested e).map (·.bytes) := by
  rw [taken, fitting_eq_self fits, List.map_map]
  have named := congrArg (List.map Prod.snd) (map_allocations s.nextAddress (s.requested e))
  rw [List.map_map, List.map_map] at named
  exact named

end Event

/-! ### Whole runs -/

/-- The memory that is taken in a run, in order. -/
def State.takenIn (s : State) : List Event → List Allocation
  | [] => []
  | e :: es => s.taken e ++ (s.after e).takenIn es

theorem takenIn_append (s : State) (es es' : List Event) :
    s.takenIn (es ++ es') = s.takenIn es ++ (s.run es).takenIn es' := by
  induction es generalizing s with
  | nil => rfl
  | cons e es ih => rw [List.cons_append, takenIn, ih, takenIn, List.append_assoc, run_cons]

/-- What is taken in a run lies in a row. -/
theorem laid_takenIn (s : State) (es : List Event) :
    Laid s.nextAddress (s.takenIn es) (s.run es).nextAddress := by
  induction es generalizing s with
  | nil => exact .nil _
  | cons e es ih => exact (laid_taken s e).append (ih _)

/-- The variables of a module that is new are among what was taken. -/
theorem globals_run (s : State) (room : s.nextAddress < Text.wordBound) (es : List Event)
    {m : Handle} {loaded : Module} (found : (s.run es).modules.get? m = some loaded) :
    s.modules.get? m = some loaded ∨
      ∀ name a, loaded.globals.get? name = some a → a ∈ s.takenIn es := by
  induction es generalizing s with
  | nil => exact Or.inl found
  | cons e es ih =>
    have room' : (s.after e).nextAddress < Text.wordBound := (laid_taken s e).stop_lt room
    obtain old | new := ih (s.after e) room' found
    · obtain older | taken := globals_after room old
      · exact Or.inl older
      · exact Or.inr fun name a h => List.mem_append_left _ (taken name a h)
    · exact Or.inr fun name a h => List.mem_append_right _ (new name a h)

theorem nextAddress_fresh (devices : Int) (capability : Int × Int) :
    memoryUnit ∣ (fresh devices capability).nextAddress ∧ 0 < (fresh devices capability).nextAddress ∧
      (fresh devices capability).nextAddress < Text.wordBound := by
  show memoryUnit ∣ 0x7f0000000000 ∧ 0 < 0x7f0000000000 ∧ 0x7f0000000000 < Text.wordBound
  decide

end InProcess

end GpuDriver
