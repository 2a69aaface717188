import GpuDriver.Proofs.InProcess.Declared

/-!
# Variables never overlap

Where the driver says that the variables of the loaded modules are, they are apart: two of one module
because each is placed behind those declared before it (`LastAt.apart`), two of two modules because the
later load starts behind the earlier one (`Placed`). What a later load places is also apart from what was
found before in modules that are gone by then (`placeOf?_run`). So no two answers of a run, for different
modules or names and however far apart in time, overlap (`device_memory_disjoint`).
-/

namespace GpuDriver

/-- The variable is at a place that the driver may give out: a multiple of the unit other than zero, such
that nothing that is reckoned with on the way reaches past the last address. -/
structure Allocation.InBounds (a : Allocation) : Prop where
  nonzero : a.address ≠ 0
  aligned : InProcess.State.memoryUnit ∣ a.address
  /-- What it covers does not reach past the last address. -/
  below {x : Address} (h : a.Covers x) : x < Text.wordBound
  /-- Its size can be rounded up. -/
  rounded : max a.bytes 1 + (InProcess.State.memoryUnit - 1) < Text.wordBound
  /-- What it is given does not reach past the last address. -/
  inside : a.address + InProcess.State.reserved a.bytes < Text.wordBound

namespace InProcess

open State

variable {s : State} {e : Event} {m m' : Handle} {n n' : String} {a a' : Allocation}

/-! ### Variables of one load -/

section LastAt

variable {cursor : Address} {globals : List Ptx.Global}

/-- A variable lies between the two ends of what its load takes. -/
theorem LastAt.bounds (h : LastAt cursor globals n a) :
    cursor ≤ a.address ∧ a.address + reserved a.bytes ≤ cursor + reservedFor globals := by
  induction globals generalizing cursor with
  | nil =>
    obtain ⟨before, g, behind, split, -⟩ := h
    cases before <;> cases split
  | cons g rest ih =>
    rw [reservedFor_cons, ← Nat.add_assoc]
    obtain later | ⟨-, -, rfl⟩ := lastAt_cons.1 h
    · obtain ⟨above, below⟩ := ih later
      exact ⟨Nat.le_trans (Nat.le_add_right _ _) above, below⟩
    · exact ⟨Nat.le_refl _, Nat.le_add_right _ _⟩

/-- Two variables of one load with different names are apart. -/
theorem LastAt.apart (h : LastAt cursor globals n a) (h' : LastAt cursor globals n' a')
    (other : n ≠ n') : a.Apart a' := by
  induction globals generalizing cursor with
  | nil =>
    obtain ⟨before, g, behind, split, -⟩ := h
    cases before <;> cases split
  | cons g rest ih =>
    obtain later | ⟨-, rfl, rfl⟩ := lastAt_cons.1 h <;>
      obtain later' | ⟨-, rfl, rfl⟩ := lastAt_cons.1 h'
    · exact ih later later'
    · exact (apart_of_le later.bounds.1).symm
    · exact apart_of_le later'.bounds.1
    · exact absurd rfl other

/-- Placing ends behind all variables. -/
theorem stop_of_place {stop : Address} {placed table : Table String Allocation}
    (h : place cursor placed globals = (some table, stop)) : stop = cursor + reservedFor globals := by
  induction globals generalizing cursor placed with
  | nil => exact (Prod.mk.inj h).2.symm
  | cons g rest ih =>
    rw [place] at h
    cases next : advance? cursor g.bytes with
    | none => simp [next] at h
    | some after =>
      rw [next] at h
      obtain ⟨rfl, -⟩ := advance?_eq_some_iff.1 next
      rw [ih h, reservedFor_cons, Nat.add_assoc]

end LastAt

/-! ### Variables of all modules -/

/-- Where the variable of a name is in a module that is loaded. -/
def State.placeOf? (s : State) (m : Handle) (n : String) : Option Allocation :=
  (s.modules.get? m).bind (·.globals.get? n)

theorem placeOf?_eq_some_iff : s.placeOf? m n = some a ↔
    ∃ loaded, s.modules.get? m = some loaded ∧ loaded.globals.get? n = some a :=
  Option.bind_eq_some_iff

/-- The driver answers with the place of the variable. -/
theorem placeOf?_of_global {name : Bytes} (found : s.global m name = .ok a) :
    ∃ n, name = Utf8.encode n ∧ s.placeOf? m n = some a := by
  obtain ⟨loaded, alive, found⟩ := bind_eq_ok_iff.1 found
  obtain ⟨n, spelled, listed⟩ := symbol_eq_ok_iff.1 found
  exact ⟨n, spelled, placeOf?_eq_some_iff.2 ⟨loaded, (module_eq_ok_iff.1 alive).2, listed⟩⟩

/-- The variables of the loaded modules lie below the cursor of device memory and are apart. -/
structure Placed (s : State) : Prop where
  below {m : Handle} {n : String} {a : Allocation} (h : s.placeOf? m n = some a) :
    a.address + reserved a.bytes ≤ s.nextAddress
  apart {m m' : Handle} {n n' : String} {a a' : Allocation} (h : s.placeOf? m n = some a)
    (h' : s.placeOf? m' n' = some a') (other : ¬ (m = m' ∧ n = n')) : a.Apart a'

/-- A load that succeeds leaves a module. -/
theorem exists_loaded?_of_ok {value : e.call.Value} (load : e.call.loads = true)
    (ok : s.reply e = .ok value) : ∃ m, s.loaded? e = some m := by
  rw [loaded?_of_ok ok]
  obtain ⟨t, files, c⟩ := e
  cases c with
  | loadModule | loadModuleData => exact ⟨value, rfl⟩
  | _ => cases load

/-- A variable that is new after an event is one of the load that the event was, which ends where the
cursor is then. -/
theorem placeOf?_after (h : (s.after e).placeOf? m n = some a) :
    s.placeOf? m n = some a ∨ s.loaded? e = some m ∧ ∃ globals, LastAt s.nextAddress globals n a ∧
      (∀ n' a', (s.after e).placeOf? m n' = some a' → LastAt s.nextAddress globals n' a') ∧
        (s.after e).nextAddress = s.nextAddress + reservedFor globals := by
  obtain ⟨loaded, alive, listed⟩ := placeOf?_eq_some_iff.1 h
  have old (same : s.modules.get? m = some loaded) : s.placeOf? m n = some a :=
    placeOf?_eq_some_iff.2 ⟨loaded, same, listed⟩
  cases load : e.call.loads with
  | false => exact Or.inl (old ((idle_after s load).modules alive))
  | true =>
    cases answered : s.reply e with
    | error status =>
      rw [after_of_failed_load answered load] at alive
      exact Or.inl (old alive)
    | ok value =>
      obtain ⟨m₁, new⟩ := exists_loaded?_of_ok load answered
      obtain ⟨c, text, globals, cursor, -, -, placed, left⟩ := exists_of_loaded? new
      obtain ⟨rfl, books⟩ := Prod.mk.inj left
      by_cases same : m = s.lastHandle + handleStep
      · subst same
        have places {n' : String} {a' : Allocation}
            (found : (s.after e).placeOf? (s.lastHandle + handleStep) n' = some a') :
            LastAt s.nextAddress (Ptx.symbols text).globals n' a' := by
          obtain ⟨loaded', alive', listed'⟩ := placeOf?_eq_some_iff.1 found
          rw [books] at alive'
          cases (Table.get?_insert_self ..).symm.trans alive'
          obtain new | ⟨-, none⟩ := (get?_of_place placed).1 listed'
          · exact new
          · cases none
        refine Or.inr ⟨new, _, places h, fun _ _ => places, ?_⟩
        rw [books]
        exact stop_of_place placed
      · rw [books] at alive
        exact Or.inl (old ((Table.get?_insert_of_ne same _).symm.trans alive))

theorem Placed.after (h : Placed s) (e : Event) : Placed (s.after e) where
  below {m n a} found := by
    obtain old | ⟨-, globals, new, -, stop⟩ := placeOf?_after found
    · exact Nat.le_trans (h.below old) (laid_taken s e).le
    · exact stop ▸ new.bounds.2
  apart {m m' n n' a a'} found found' other := by
    obtain old | ⟨loaded, globals, new, all, -⟩ := placeOf?_after found <;>
      obtain old' | ⟨loaded', globals', new', -, -⟩ := placeOf?_after found'
    · exact h.apart old old' other
    · exact apart_of_le (Nat.le_trans (h.below old) new'.bounds.1)
    · exact (apart_of_le (Nat.le_trans (h.below old') new.bounds.1)).symm
    · obtain rfl : m = m' := Option.some.inj (loaded.symm.trans loaded')
      exact new.apart (all n' a' found') fun same => other ⟨rfl, same⟩

theorem placed_run (devices : Int) (capability : Int × Int) (es : List Event) :
    Placed ((fresh devices capability).run es) :=
  run_induction (fun _ e h => h.after e) ⟨nofun, nofun⟩ es

/-- A variable that is found after a run was found before it, or it is behind what was taken by then. -/
theorem placeOf?_run {es : List Event} (h : (s.run es).placeOf? m n = some a) :
    s.placeOf? m n = some a ∨ s.nextAddress ≤ a.address := by
  induction es generalizing s with
  | nil => exact Or.inl h
  | cons e es ih =>
    obtain found | behind := ih h
    · exact (placeOf?_after found).imp_right fun ⟨_, _, new, _⟩ => new.bounds.1
    · exact Or.inr (Nat.le_trans (laid_taken s e).le behind)

/-- A module that is there before and after a run has its variables where they were. -/
theorem placeOf?_eq_of_run (hi : Integrity s) {es : List Event} (h : s.placeOf? m n = some a)
    (h' : (s.run es).placeOf? m n = some a') : a = a' := by
  obtain ⟨loaded, alive, listed⟩ := placeOf?_eq_some_iff.1 h
  obtain ⟨loaded', alive', listed'⟩ := placeOf?_eq_some_iff.1 h'
  have old : m ≤ s.lastHandle := (hi.key_bounds (k := .module) (Table.mem_keys.2 ⟨_, alive⟩)).2
  cases alive.symm.trans ((later_run s es).modules old alive')
  exact Option.some.inj (listed.symm.trans listed')

/-- Two answers, the one given before a run and the other after it: the same variable is at the same
place, and two variables are apart. -/
theorem apart_of_global (hi : Integrity s) (hp : Placed s) {es : List Event} {name name' : Bytes}
    (found : s.global m name = .ok a) (found' : (s.run es).global m' name' = .ok a') :
    if m = m' ∧ name = name' then a = a' else a.Apart a' := by
  obtain ⟨n, rfl, h⟩ := placeOf?_of_global found
  obtain ⟨n', rfl, h'⟩ := placeOf?_of_global found'
  split
  · rename_i same
    obtain ⟨rfl, spelled⟩ := same
    obtain rfl := Utf8.encode_injective spelled
    exact placeOf?_eq_of_run hi h h'
  · rename_i other
    obtain old | behind := placeOf?_run h'
    · exact hp.apart h old fun same => other ⟨same.1, congrArg Utf8.encode same.2⟩
    · exact apart_of_le (Nat.le_trans (hp.below h) behind)

/-! ### Whole runs -/

/-- What is taken in a run from fresh books is within bounds. -/
theorem inBounds_of_mem_takenIn {devices : Int} {capability : Int × Int} {es : List Event}
    (ha : a ∈ (fresh devices capability).takenIn es) : a.InBounds := by
  obtain ⟨aligned, pos, -⟩ := nextAddress_fresh devices capability
  have laid := laid_takenIn (fresh devices capability) es
  obtain ⟨above, -, inside⟩ := laid.bounds ha
  have given : max a.bytes 1 ≤ reserved a.bytes := max_le_reserved a.bytes
  refine ⟨?_, laid.aligned aligned ha, ?_, ?_, inside⟩
  · exact Nat.ne_of_gt (Nat.lt_of_lt_of_le pos above)
  · rintro x ⟨-, below⟩
    lia
  · unfold reserved memoryUnit Text.wordBound at inside
    unfold memoryUnit Text.wordBound
    lia

/-- Wherever the driver says that a variable is, memory was taken for it. -/
theorem mem_takenIn_of_global {devices : Int} {capability : Int × Int} {es : List Event}
    {name : Bytes} (found : ((fresh devices capability).run es).global m name = .ok a) :
    a ∈ (fresh devices capability).takenIn es := by
  obtain ⟨-, -, room⟩ := nextAddress_fresh devices capability
  obtain ⟨n, -, found⟩ := placeOf?_of_global found
  obtain ⟨loaded, alive, listed⟩ := placeOf?_eq_some_iff.1 found
  obtain old | new := globals_run _ room es alive
  · cases old
  · exact new n a listed

/-- **No two variables overlap in device memory.** In every run, whatever is loaded, unloaded or
declared again in between and whatever fails: two answers to where a variable is, given to any threads at
any times, are the same place if they are about one name of one module, and else two places that are
apart, also if one of the modules is gone when the other is loaded; and each place is within bounds. Every
load takes memory from where the cursor is on, each variable behind the one before it, up to where the
cursor is then; it does so for each of its variables, also for those whose name is declared again, unless
they would reach past the last address: then it is answered that memory has run out. No address belongs to
two of the variables that memory was taken for in the run, all of them are within bounds, and they include
all that the driver answers with, each taken by the event that loaded its module. -/
theorem device_memory_disjoint (devices : Int) (capability : Int × Int) (es : List Event) :
    let s₀ := fresh devices capability
    (∀ front back rest, es = front ++ back ++ rest →
      ∀ t t' files files' m m' name name' (a a' : Allocation),
        (s₀.run front).reply ⟨t, files, .global m name⟩ = .ok a →
        (s₀.run (front ++ back)).reply ⟨t', files', .global m' name'⟩ = .ok a' →
          (if m = m' ∧ name = name' then a = a' else a.Apart a') ∧
            (a.InBounds ∧ a'.InBounds) ∧ a ∈ s₀.takenIn es ∧ a' ∈ s₀.takenIn es) ∧
      (s₀.takenIn es).Pairwise Allocation.Apart ∧ (∀ a ∈ s₀.takenIn es, a.InBounds) ∧
      ∀ front e back, es = front ++ e :: back →
        let s := s₀.run front
        Laid s.nextAddress (s.taken e) (s.after e).nextAddress ∧
          (∀ m name a, m ∉ s.modules.keys → (s.after e).global m name = .ok a → a ∈ s.taken e) ∧
          (e.call.loads = true →
            (s.reply e = .error .outOfMemory ↔
              Text.wordBound ≤ s.nextAddress + reservedFor (s.requested e)) ∧
            (s.reply e ≠ .error .outOfMemory →
              (s.taken e).map (·.bytes) = (s.requested e).map (·.bytes))) := by
  intro s₀
  obtain ⟨-, -, room⟩ := nextAddress_fresh devices capability
  refine ⟨?_, (laid_takenIn s₀ es).pairwise_apart, fun a => inBounds_of_mem_takenIn, ?_⟩
  · rintro front back rest rfl t t' files files' m m' name name' a a' found found'
    have later : (s₀.run (front ++ back)).global m' name' = .ok a' := found'
    have taken : a ∈ s₀.takenIn front := mem_takenIn_of_global found
    have taken' : a' ∈ s₀.takenIn (front ++ back) := mem_takenIn_of_global later
    rw [run_append] at later
    refine ⟨apart_of_global (integrity_run devices capability front)
      (placed_run devices capability front) found later,
      ⟨inBounds_of_mem_takenIn taken, inBounds_of_mem_takenIn taken'⟩, ?_, ?_⟩
    · rw [takenIn_append, takenIn_append]
      exact List.mem_append_left _ (List.mem_append_left _ taken)
    · rw [takenIn_append]
      exact List.mem_append_left _ taken'
  · rintro front e back - s
    have room : s.nextAddress < Text.wordBound := (laid_takenIn s₀ front).stop_lt room
    refine ⟨laid_taken s e, fun m name a unknown found => ?_, fun load => ?_⟩
    · obtain ⟨n, -, found⟩ := placeOf?_of_global found
      obtain ⟨loaded, alive, listed⟩ := placeOf?_eq_some_iff.1 found
      obtain old | new := globals_after room alive
      · exact absurd (Table.mem_keys.2 ⟨loaded, old⟩) unknown
      · exact new n a listed
    · have full := outOfMemory_iff room load
      refine ⟨full, fun answered => map_bytes_taken ?_⟩
      exact Nat.lt_of_not_le fun h => answered (full.2 h)

/-! ### A variable whose module is gone -/

/-- The octet is found where the cursor was. -/
theorem global_octetLoad {s : State} {t : ThreadId} {c m : Handle} {address : Address}
    (current : s.current t = .ok c) (here : s.nextAddress = address)
    (fits : address + memoryUnit < Text.wordBound) (next : s.lastHandle + handleStep = m) :
    (s.after (octetLoad t)).global m (Utf8.encode "x") = .ok ⟨address, 1⟩ := by
  subst here next
  rw [after_octetLoad current fits]
  refine (global_eq_ok_iff ?_ (Table.get?_insert_self ..)).2 ⟨"x", rfl, Table.get?_insert_self ..⟩
  exact (current_eq_ok_iff.1 current).1

/-- Two variables of one size. -/
def pair : List Ptx.Global := [⟨"x", 1⟩, ⟨"y", 1⟩]

/-- A module with these variables. -/
def pairModule : String := ".version 7.0\n.target sm_70\n.global .b8 x;\n.global .b8 y;\n"

theorem symbols_pairModule : Ptx.symbols pairModule = ⟨[], pair⟩ := by
  rw [Ptx.symbols_eq, Ptx.bodyOf_eq_self (by decide)]
  rfl

theorem isModule_pairModule : Ptx.isModule pairModule = true := by
  have plain : '/' ∉ pairModule.toList := by decide
  rw [Ptx.isModule_eq, Ptx.bodyOf_eq_self plain]
  decide

theorem loadImage_pairModule {t : ThreadId} {c : Handle} (current : s.current t = .ok c)
    (fits : s.nextAddress + reservedFor pair < Text.wordBound) :
    s.loadImage t (Utf8.encode pairModule) = (.ok (s.lastHandle + handleStep),
      (addModule { s with nextAddress := s.nextAddress + reservedFor pair } c
        ((allocations s.nextAddress pair).foldl (fun t a => t.insert a.1 a.2) .empty) []).2) := by
  have placed := place_of_fits fits .empty
  have loaded := loadImage_eq_ok_iff.2 ⟨c, _, _, _, current,
    imageText?_encode_of_isModule isModule_pairModule rfl, isModule_pairModule,
    (by rw [symbols_pairModule]; exact placed), rfl⟩
  rw [symbols_pairModule] at loaded
  exact loaded

/-- Two variables of one module, and a third that is loaded when that module is gone: all are apart. -/
theorem device_memory_disjoint_reload :
    let s₀ := fresh 1 (7, 0)
    let front := contextRun ++ [textLoad 0 pairModule]
    let back : List Event := [⟨0, {}, .unloadModule 0x1200⟩, octetLoad 0]
    let ask (m : Handle) (n : String) : Event := ⟨1, {}, .global m (Utf8.encode n)⟩
    ∃ x y z : Allocation, (s₀.run front).reply (ask 0x1200 "x") = .ok x ∧
      (s₀.run front).reply (ask 0x1200 "y") = .ok y ∧
      (s₀.run (front ++ back)).reply (ask 0x1300 "x") = .ok z ∧
      x.Apart y ∧ x.Apart z ∧ y.Apart z ∧ z.InBounds := by
  intro s₀ front back ask
  have current : (s₀.run contextRun).current 0 = .ok 0x1100 := rfl
  have paired := loadImage_pairModule current (by decide)
  have once : s₀.run front = _ := (run_concat _ _ _).trans (congrArg Prod.snd paired)
  have loaded : (s₀.run contextRun).loaded? (textLoad 0 pairModule) = some 0x1200 :=
    loaded?_of_ok (e := textLoad 0 pairModule) (congrArg Prod.fst paired)
  have read : (textLoad 0 pairModule).text? = some pairModule :=
    imageText?_encode_of_isModule isModule_pairModule rfl
  have run : s₀.run front = (s₀.run contextRun).after (textLoad 0 pairModule) := run_concat _ _ _
  have found (before : List Ptx.Global) (g : Ptx.Global) (behind : List Ptx.Global)
      (split : pair = before ++ g :: behind) (last : ∀ g' ∈ behind, g'.name ≠ g.name) :
      (s₀.run front).reply (ask 0x1200 g.name) =
        .ok ⟨(s₀.run contextRun).nextAddress + reservedFor before, g.bytes⟩ := by
    rw [run]
    exact global_of_loaded? loaded read (by rw [symbols_pairModule]; exact split) last
  have x := found [] ⟨"x", 1⟩ _ rfl (by decide)
  have y := found [⟨"x", 1⟩] ⟨"y", 1⟩ [] rfl (by decide)
  have z : (s₀.run (front ++ back)).reply (ask 0x1300 "x") = .ok ⟨0x7f0000000200, 1⟩ := by
    rw [run_append]
    apply global_octetLoad (s := (s₀.run front).after ⟨0, {}, .unloadModule 0x1200⟩) (c := 0x1100)
    · rw [current_eq_ok_iff, once]
      decide +kernel
    · rw [once]
      decide +kernel
    · decide
    · rw [once]
      decide +kernel
  obtain ⟨answers, -⟩ := device_memory_disjoint 1 (7, 0) (front ++ back)
  have xy := answers front [] back (by rw [List.append_nil]) _ _ _ _ _ _ _ _ _ _ x
    (by rw [List.append_nil]; exact y)
  have xz := answers front back [] (List.append_nil _).symm _ _ _ _ _ _ _ _ _ _ x z
  have yz := answers front back [] (List.append_nil _).symm _ _ _ _ _ _ _ _ _ _ y z
  exact ⟨_, _, _, x, y, z, xy.1, xz.1, yz.1, xz.2.1.2⟩

end InProcess

end GpuDriver
