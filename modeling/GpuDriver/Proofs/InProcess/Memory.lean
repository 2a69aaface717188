import Mathlib.Algebra.GroupWithZero.Nat
import GpuDriver.Proofs.InProcess.Failure
import GpuDriver.Proofs.InProcess.Link

/-!
# Device memory that a load takes

A load gives its variables memory one after the other, and gives nothing back: if a variable does not
fit, the memory of those in front of it stays taken (`place_eq_none`). So a load that fails leaves no
trace in later loads exactly if it did not run out of memory behind a variable that fitted
(`failed_load_iff`).
-/

namespace GpuDriver.InProcess

open State

/-! ### Placing variables -/

theorem memoryUnit_le_reserved (bytes : Nat) : memoryUnit ≤ reserved bytes := by
  unfold reserved memoryUnit
  omega

theorem advance?_eq_some_iff {cursor bytes next : Nat} :
    advance? cursor bytes = some next ↔
      next = cursor + reserved bytes ∧ cursor + reserved bytes < Text.wordBound := by
  have fits : cursor + reserved bytes < Text.wordBound →
      max bytes 1 + (memoryUnit - 1) < Text.wordBound := by
    unfold reserved memoryUnit Text.wordBound
    omega
  unfold advance?
  split
  · rename_i h
    simp [h.2, eq_comm]
  · rename_i h
    simp only [reduceCtorEq, false_iff, not_and]
    exact fun _ h' => h ⟨fits h', h'⟩

/-- The octets that variables are given. -/
def reservedFor (globals : List Ptx.Global) : Nat := (globals.map fun g => reserved g.bytes).sum

@[simp] theorem reservedFor_nil : reservedFor [] = 0 := rfl

@[simp] theorem reservedFor_cons (g : Ptx.Global) (rest : List Ptx.Global) :
    reservedFor (g :: rest) = reserved g.bytes + reservedFor rest := rfl

/-- The places of variables that are placed one after the other from an address on. -/
def allocations (cursor : Address) : List Ptx.Global → List (String × Allocation)
  | [] => []
  | g :: rest => (g.name, ⟨cursor, g.bytes⟩) :: allocations (cursor + reserved g.bytes) rest

/-- Variables that fit are all placed. -/
theorem place_of_fits {globals : List Ptx.Global} {cursor : Address}
    (fits : cursor + reservedFor globals < Text.wordBound) (placed : Table String Allocation) :
    place cursor placed globals =
      (some ((allocations cursor globals).foldl (fun t a => t.insert a.1 a.2) placed),
        cursor + reservedFor globals) := by
  induction globals generalizing cursor placed with
  | nil => rfl
  | cons g rest ih =>
    rw [reservedFor_cons, ← Nat.add_assoc] at fits
    have next : advance? cursor g.bytes = some (cursor + reserved g.bytes) :=
      advance?_eq_some_iff.2 ⟨rfl, Nat.lt_of_le_of_lt (Nat.le_add_right _ _) fits⟩
    simp only [place, next, ih fits, allocations, List.foldl_cons, reservedFor_cons, Nat.add_assoc]

/-- If not all variables fit, the memory of those in front of the first that does not is taken. -/
theorem place_eq_none {globals : List Ptx.Global} {cursor stop : Address}
    {placed : Table String Allocation} (h : place cursor placed globals = (none, stop)) :
    ∃ front g rest, globals = front ++ g :: rest ∧ stop = cursor + reservedFor front ∧
      (front ≠ [] → stop < Text.wordBound) ∧ Text.wordBound ≤ stop + reserved g.bytes := by
  induction globals generalizing cursor placed with
  | nil => simp [place] at h
  | cons g rest ih =>
    rw [place] at h
    cases next : advance? cursor g.bytes with
    | none =>
      obtain rfl : cursor = stop := by simpa [next] using h
      refine ⟨[], g, rest, rfl, rfl, fun h => absurd rfl h, Nat.le_of_not_lt fun fits => ?_⟩
      rw [advance?_eq_some_iff.2 ⟨rfl, fits⟩] at next
      cases next
    | some n =>
      rw [next] at h
      obtain ⟨front, g', rest', rfl, rfl, below, stuck⟩ := ih h
      obtain ⟨rfl, fits⟩ := advance?_eq_some_iff.1 next
      refine ⟨g :: front, g', rest', rfl, by rw [reservedFor_cons, Nat.add_assoc], fun _ => ?_, stuck⟩
      cases front with
      | nil => exact fits
      | cons => exact below (List.cons_ne_nil _ _)

/-! ### Later loads -/

/-- The variables of a module that is loaded. -/
def State.variables? (s : State) (m : Handle) : Option (Table String Allocation) :=
  (s.modules.get? m).map (·.globals)

/-- Whatever calls follow, each load is answered alike from both books, and leaves the variables of all
modules in the same places. -/
def LoadAlike (s s' : State) : Prop :=
  ∀ (later : List Event) (e : Event), e.call.loads = true →
    (s.run later).reply e = (s'.run later).reply e ∧
      ∀ m, ((s.run later).after e).variables? m = ((s'.run later).after e).variables? m

/-- An event that loads a text. -/
def textLoad (t : ThreadId) (text : String) : Event := ⟨t, {}, .loadModuleData (Utf8.encode text)⟩

/-- An event that loads one variable of one octet. -/
def octetLoad (t : ThreadId) : Event := textLoad t Ptx.octetModule

theorem symbols_octetModule : Ptx.symbols Ptx.octetModule = ⟨[], [⟨"x", 1⟩]⟩ := by
  rw [Ptx.symbols_eq, Ptx.bodyOf_of_mem (by decide)]
  rfl

theorem imageText?_octetModule :
    imageText? (Utf8.encode Ptx.octetModule) = some Ptx.octetModule :=
  imageText?_encode_of_isModule (Ptx.linkable_of_mem (by decide) "").valid rfl

section Octet

variable {s : State} {t : ThreadId}

/-- One octet is loaded if there is room for it, and gets the unit at the cursor. -/
theorem loadImage_octetModule {c : Handle} (current : s.current t = .ok c)
    (fits : s.nextAddress + memoryUnit < Text.wordBound) :
    s.loadImage t (Utf8.encode Ptx.octetModule) = (.ok (s.lastHandle + handleStep),
      (addModule { s with nextAddress := s.nextAddress + memoryUnit } c
        (Table.empty.insert "x" ⟨s.nextAddress, 1⟩) []).2) := by
  have valid : Ptx.isModule Ptx.octetModule = true := (Ptx.linkable_of_mem (by decide) "").valid
  have placed : place s.nextAddress .empty (Ptx.symbols Ptx.octetModule).globals =
      (some (Table.empty.insert "x" ⟨s.nextAddress, 1⟩), s.nextAddress + memoryUnit) := by
    rw [symbols_octetModule]
    exact place_of_fits fits .empty
  have loaded := loadImage_eq_ok_iff.2
    ⟨c, _, _, _, current, imageText?_octetModule, valid, placed, rfl⟩
  rw [symbols_octetModule] at loaded
  exact loaded

theorem exists_reply_octetLoad {c : Handle} (current : s.current t = .ok c)
    (fits : s.nextAddress + memoryUnit < Text.wordBound) :
    ∃ m : Handle, s.reply (octetLoad t) = .ok m :=
  ⟨_, congrArg Prod.fst (loadImage_octetModule current fits)⟩

theorem after_octetLoad {c : Handle} (current : s.current t = .ok c)
    (fits : s.nextAddress + memoryUnit < Text.wordBound) :
    s.after (octetLoad t) = (addModule { s with nextAddress := s.nextAddress + memoryUnit } c
      (Table.empty.insert "x" ⟨s.nextAddress, 1⟩) []).2 :=
  congrArg Prod.snd (loadImage_octetModule current fits)

/-- The octet is where the cursor of device memory was. -/
theorem variables?_after_octetLoad {m : Handle} (loaded : s.reply (octetLoad t) = .ok m) :
    ((s.after (octetLoad t)).variables? m).bind (·.get? "x") = some ⟨s.nextAddress, 1⟩ := by
  obtain ⟨c, text, globals, cursor, -, read, -, placed, left⟩ :=
    loadImage_eq_ok_iff.1 (show s.loadImage t _ = (.ok m, s.after (octetLoad t)) from
      Prod.ext loaded rfl)
  obtain rfl : text = Ptx.octetModule := by
    simpa [imageText?_octetModule] using read.symm
  obtain ⟨rfl, hafter⟩ := Prod.mk.inj left
  rw [symbols_octetModule, place] at placed
  cases next : advance? s.nextAddress 1 with
  | none => simp [next] at placed
  | some n =>
    obtain ⟨rfl, rfl⟩ : Table.empty.insert "x" ⟨s.nextAddress, 1⟩ = globals ∧ n = cursor := by
      simpa [next, place] using placed
    simp [hafter, variables?]

end Octet

/-- Two books from which loads are alike give out the same device memory, if one of them has any left
and a thread that could use it. -/
theorem LoadAlike.nextAddress_eq {s s' : State} (alike : LoadAlike s s') {t : ThreadId} {c : Handle}
    (current : s.current t = .ok c) (fits : s.nextAddress + memoryUnit < Text.wordBound) :
    s.nextAddress = s'.nextAddress := by
  obtain ⟨m, loaded⟩ := exists_reply_octetLoad current fits
  obtain ⟨answered, placed⟩ := alike [] (octetLoad t) rfl
  have here := variables?_after_octetLoad loaded
  have there := variables?_after_octetLoad (s := s') (answered.symm.trans loaded)
  rw [show (s.after (octetLoad t)).variables? m = (s'.after (octetLoad t)).variables? m from
    placed m, there] at here
  simpa using here.symm

/-! ### Loads that fail -/

/-- A load that runs out of device memory leaves the cursor behind the variables that fitted. -/
theorem after_of_outOfMemory {s : State} {e : Event} {status : Status}
    (failed : s.reply e = .error status) (load : e.call.loads = true) :
    (status ≠ .outOfMemory ∧ s.after e = s) ∨
      status = .outOfMemory ∧ ∃ c text front g rest, s.current e.thread = .ok c ∧
        e.text? = some text ∧ (Ptx.symbols text).globals = front ++ g :: rest ∧
        (front ≠ [] → s.nextAddress + reservedFor front < Text.wordBound) ∧
        Text.wordBound ≤ s.nextAddress + reservedFor front + reserved g.bytes ∧
        s.after e = { s with nextAddress := s.nextAddress + reservedFor front } := by
  obtain untouched | ⟨full, c, text, cursor, current, read, placed, left⟩ :=
    load_eq_error_cases failed load
  · exact Or.inl untouched
  · obtain ⟨front, g, rest, split, rfl, below, stuck⟩ := place_eq_none placed
    exact Or.inr ⟨full, c, text, front, g, rest, current, read, split, below, stuck, left⟩

theorem loadAlike_refl (s : State) : LoadAlike s s := fun _ _ _ => ⟨rfl, fun _ => rfl⟩

/-- **When a load that fails leaves no trace.** After any run, later loads are what they would have been
without it, in their answers and in the places of all variables, unless it failed for want of device
memory although the first variable of its text fitted: then the memory in front of the variable that did
not fit stays taken. -/
theorem failed_load_iff (devices : Int) (capability : Int × Int) (es : List Event) (e : Event)
    (status : Status) (load : e.call.loads = true)
    (failed : ((fresh devices capability).run es).reply e = .error status) :
    let s := (fresh devices capability).run es
    LoadAlike s (s.after e) ↔
      ¬ (status = .outOfMemory ∧ ∃ text first rest, e.text? = some text ∧
        (Ptx.symbols text).globals = first :: rest ∧
        s.nextAddress + reserved first.bytes < Text.wordBound) := by
  intro s
  obtain ⟨other, untouched⟩ | ⟨full, c, text, front, g, rest, current, read, split, below, stuck, left⟩ :=
    after_of_outOfMemory failed load
  · rw [untouched]
    exact ⟨fun _ h => other h.1, fun _ => loadAlike_refl s⟩
  have pos : 0 < memoryUnit := by decide
  cases front with
  | nil =>
    -- Not even the first variable fitted, so that nothing was taken.
    rw [left, reservedFor_nil, Nat.add_zero]
    refine ⟨?_, fun _ => loadAlike_refl s⟩
    rintro - ⟨-, text', first, rest', read', split', fits⟩
    obtain rfl : text = text' := Option.some.inj (read.symm.trans read')
    obtain rfl : first = g := (List.cons.inj (split'.symm.trans split)).1
    exact absurd fits (Nat.not_lt.2 stuck)
  | cons first front =>
    have room := memoryUnit_le_reserved first.bytes
    have below := below (List.cons_ne_nil _ _)
    rw [reservedFor_cons] at below left
    have fits : s.nextAddress + reserved first.bytes < Text.wordBound := by lia
    refine ⟨fun alike => ?_, fun h => absurd ⟨full, text, first, _, read, split, fits⟩ h⟩
    have stays := alike.nextAddress_eq current (by lia)
    rw [left] at stays
    dsimp only at stays
    lia

/-! ### Two loads that fail -/

/-- A module with a variable that is larger than device memory. -/
def hugeModule : String :=
  ".version 7.0\n.target sm_70\n.global .b8 big[4294967296][4294967296];\n"

/-- The same with a small variable in front. -/
def partlyHugeModule : String :=
  ".version 7.0\n.target sm_70\n.global .b8 x;\n.global .b8 big[4294967296][4294967296];\n"

theorem isModule_of_huge {text : String} (h : text ∈ [hugeModule, partlyHugeModule]) :
    Ptx.isModule text = true := by
  have plain : ∀ text ∈ [hugeModule, partlyHugeModule], '/' ∉ text.toList := by decide
  have valid : ∀ text ∈ [hugeModule, partlyHugeModule],
      ((Text.words text.toList).contains ".version".toList &&
        (Text.words text.toList).contains ".target".toList && Text.balanced text.toList) = true := by
    decide
  rw [Ptx.isModule_eq, Ptx.bodyOf_eq_self (plain text h), valid text h]

theorem symbols_hugeModule : Ptx.symbols hugeModule = ⟨[], [⟨"big", Ptx.maxSize⟩]⟩ := by
  rw [Ptx.symbols_eq, Ptx.bodyOf_eq_self (by decide)]
  rfl

theorem symbols_partlyHugeModule :
    Ptx.symbols partlyHugeModule = ⟨[], [⟨"x", 1⟩, ⟨"big", Ptx.maxSize⟩]⟩ := by
  rw [Ptx.symbols_eq, Ptx.bodyOf_eq_self (by decide)]
  rfl

/-- The load of a text fails if its variables do not fit. -/
theorem reply_textLoad {s : State} {t : ThreadId} {c : Handle} {text : String} {stop : Address}
    (current : s.current t = .ok c) (valid : Ptx.isModule text = true)
    (ending : text.toList.getLast? = some '\n')
    (full : place s.nextAddress .empty (Ptx.symbols text).globals = (none, stop)) :
    s.reply (textLoad t text) = .error .outOfMemory ∧
      s.after (textLoad t text) = { s with nextAddress := stop } := by
  have failed : s.loadImage t (Utf8.encode text) =
      (.error .outOfMemory, { s with nextAddress := stop }) := by
    simp only [loadImage, current, imageText?_encode_of_isModule valid ending, valid, full, if_true]
  exact Prod.mk.inj failed

/-- A run that leaves a current context. -/
def contextRun : List Event := [⟨0, {}, .init 0⟩, ⟨0, {}, .createContext 0 ⟨0⟩⟩]

/-- A variable that is too large by itself leaves no trace. -/
theorem failed_load_iff_huge :
    let s := (fresh 1 (7, 0)).run contextRun
    s.reply (textLoad 0 hugeModule) = .error .outOfMemory ∧
      LoadAlike s (s.after (textLoad 0 hugeModule)) := by
  intro s
  have valid : Ptx.isModule hugeModule = true := isModule_of_huge (by decide)
  have full : place s.nextAddress .empty (Ptx.symbols hugeModule).globals =
      (none, s.nextAddress) := by
    rw [symbols_hugeModule]
    rfl
  have failed := (reply_textLoad (s := s) (t := 0) rfl valid rfl full).1
  refine ⟨failed, (failed_load_iff 1 (7, 0) contextRun _ _ rfl failed).2 ?_⟩
  rintro ⟨-, text, first, rest, read, split, fits⟩
  obtain rfl : hugeModule = text :=
    Option.some.inj ((imageText?_encode_of_isModule valid rfl).symm.trans read)
  rw [symbols_hugeModule] at split
  obtain rfl := (List.cons.inj split).1
  exact absurd fits (by decide)

/-- A load that fails can move later loads: a variable in front of the one that is too large keeps its
memory. -/
theorem exists_load_moved :
    ¬ ∀ (devices : Int) (capability : Int × Int) (es : List Event) (e : Event) (status : Status),
      e.call.loads = true → ((fresh devices capability).run es).reply e = .error status →
        LoadAlike ((fresh devices capability).run es)
          (((fresh devices capability).run es).after e) := by
  intro h
  let s := (fresh 1 (7, 0)).run contextRun
  have full : place s.nextAddress .empty (Ptx.symbols partlyHugeModule).globals =
      (none, s.nextAddress + memoryUnit) := by
    rw [symbols_partlyHugeModule]
    rfl
  have valid : Ptx.isModule partlyHugeModule = true := isModule_of_huge (by decide)
  obtain ⟨failed, left⟩ := reply_textLoad (s := s) (t := 0) rfl valid rfl full
  have alike : LoadAlike s (s.after (textLoad 0 partlyHugeModule)) :=
    h 1 (7, 0) contextRun _ _ rfl failed
  have stays := alike.nextAddress_eq (t := 0) (c := 0x1100) rfl (by decide)
  rw [left] at stays
  exact absurd stays (by decide)

end GpuDriver.InProcess
