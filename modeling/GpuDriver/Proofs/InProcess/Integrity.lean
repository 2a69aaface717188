import GpuDriver.Proofs.InProcess.Handles

/-!
# Referential integrity of the books

The tables of the in-process driver refer to each other: a module to its context, a kernel to its module
and back, a device to its primary context. `Integrity` says that no reference dangles, that a handle
names one thing only, and that nothing is there before the driver is started. It is put together from
three parts, each kept by every change, and holds after every run of any threads (`integrity_run`).
-/

namespace GpuDriver.InProcess

open State

/-- Modules belong to live contexts, and the two tables of kernels agree. -/
structure Ownership (s : State) : Prop where
  /-- The context that owns a module is alive. -/
  owner_alive {m : Handle} {loaded : Module} (h : s.modules.get? m = some loaded) :
    loaded.context ∈ s.contexts.keys
  /-- A kernel belongs to a module that is loaded and knows its name. -/
  function_listed {f : Handle} {entry : Function} (h : s.functions.get? f = some entry) :
    ∃ loaded, s.modules.get? entry.module = some loaded ∧ entry.name ∈ loaded.functions.keys
  /-- What a module gives for a name is a kernel of that module and name. -/
  listed_function {m f : Handle} {loaded : Module} {name : String}
    (h : s.modules.get? m = some loaded) (hf : loaded.functions.get? name = some f) :
    s.functions.get? f = some ⟨m, name⟩

/-- The primary contexts are those that are listed, and devices are known. -/
structure Primacy (s : State) : Prop where
  /-- What is listed for a device is retained, alive and the primary context of that device. -/
  primary_alive {d : Int} {p : Primary} (h : s.primaries.get? d = some p) :
    1 ≤ p.retains ∧ s.contexts.get? p.context = some ⟨⟨d⟩, true⟩
  /-- A primary context that is alive is listed for its device. -/
  primary_listed {c : Handle} {d : Device} (h : s.contexts.get? c = some ⟨d, true⟩) :
    ∃ p, s.primaries.get? d.ordinal = some p ∧ p.context = c
  /-- Every context is on a device that there is. -/
  device_known {c : Handle} {context : Context} (h : s.contexts.get? c = some context) :
    s.HasDevice context.device

/-- A handle names one thing only and is among those given out. -/
structure Numbering (s : State) : Prop where
  /-- No handle names things of two kinds. -/
  disjoint {k k' : Kind} {h : Handle} (hk : h ∈ s.keysOf k) (hk' : h ∈ s.keysOf k') : k = k'
  /-- Handles of what is alive have been given out. -/
  key_bounds {k : Kind} {h : Handle} (hk : h ∈ s.keysOf k) : 0 < h ∧ h ≤ s.lastHandle
  /-- Handles on stacks have been given out. -/
  stack_bounds {t : ThreadId} {h : Handle} (ht : h ∈ s.stackOf t) : 0 < h ∧ h ≤ s.lastHandle

/-- The tables and the stacks are empty. -/
structure Blank (s : State) : Prop where
  contexts : s.contexts.keys = []
  primaries : s.primaries.keys = []
  stack (t : ThreadId) : s.stackOf t = []
  modules : s.modules.keys = []
  functions : s.functions.keys = []
  links : s.links.keys = []
  launches : s.launches = []

/-- No reference in the books dangles. -/
structure Integrity (s : State) : Prop extends Ownership s, Primacy s, Numbering s where
  /-- Nothing is there before the driver is started. -/
  blank (h : s.initialized = false) : Blank s

variable {t : ThreadId} {s s' : State} {call : Driver.Call}

/-! ### Numbering -/

theorem Numbering.of_issued {kind : Handle → Kind} (h : Numbering s) (hi : Issued s s' kind)
    (hs : ∀ u c, c ∈ s'.stackOf u → c ∈ s.stackOf u ∨ c ∈ s'.contexts.keys) : Numbering s' := by
  obtain ⟨up, issued⟩ := hi
  have bounds : ∀ k c, c ∈ s'.keysOf k → 0 < c ∧ c ≤ s'.lastHandle := by
    intro k c hc
    rcases issued k c hc with old | ⟨above, below, -⟩
    · exact ⟨(h.key_bounds old).1, Nat.le_trans (h.key_bounds old).2 up⟩
    · exact ⟨Nat.zero_lt_of_lt above, below⟩
  refine ⟨fun {k k' c} hk hk' => ?_, fun {k c} => bounds k c, fun {u c} hc => ?_⟩
  · rcases issued k c hk with old | ⟨above, -, rfl⟩ <;>
      rcases issued k' c hk' with old' | ⟨above', -, rfl⟩
    · exact h.disjoint old old'
    · have := (h.key_bounds old).2
      lia
    · have := (h.key_bounds old').2
      lia
    · rfl
  · rcases hs u c hc with old | alive
    · exact ⟨(h.stack_bounds old).1, Nat.le_trans (h.stack_bounds old).2 up⟩
    · exact bounds .context c alive

/-- What is on a stack after one thread was given a stack. -/
theorem mem_stackOf_withStack {stack : List Handle} {u : ThreadId} {c : Handle}
    (hc : c ∈ (s.withStack t stack).stackOf u) : (u = t ∧ c ∈ stack) ∨ c ∈ s.stackOf u := by
  by_cases hu : u = t
  · exact Or.inl ⟨hu, by simpa [withStack, hu] using hc⟩
  · exact Or.inr (by simpa [withStack, hu] using hc)

/-- A change puts only live contexts on a stack. -/
theorem Change.mem_stackOf (h : Change t s call s') {u : ThreadId} {c : Handle}
    (hc : c ∈ s'.stackOf u) : c ∈ s.stackOf u ∨ c ∈ s'.contexts.keys := by
  cases h with
  | pop | destroyTop =>
    obtain ⟨rfl, hc⟩ | hc := mem_stackOf_withStack hc
    · exact Or.inl (List.mem_of_mem_tail hc)
    · exact Or.inl hc
  | replace up nonzero alive =>
    obtain ⟨rfl, hc⟩ | hc := mem_stackOf_withStack hc
    · obtain rfl | hc := List.mem_cons.1 hc
      · exact Or.inr alive
      · exact Or.inl (List.mem_of_mem_tail hc)
    · exact Or.inl hc
  | create =>
    obtain ⟨rfl, hc⟩ | hc := mem_stackOf_withStack hc
    · obtain rfl | hc := List.mem_cons.1 hc
      · exact Or.inr (Table.mem_keys_insert.2 (Or.inl rfl))
      · exact Or.inl hc
    · exact Or.inl hc
  | _ => exact Or.inl hc

theorem Numbering.change (h : Numbering s) (hc : Change t s call s') : Numbering s' := by
  obtain ⟨kind, hi⟩ := hc.issued
  exact h.of_issued hi fun _ _ => hc.mem_stackOf

/-- The next handle names nothing yet. -/
theorem Numbering.ne_next (h : Numbering s) {k : Kind} {c : Handle} (hc : c ∈ s.keysOf k) :
    c ≠ s.lastHandle + handleStep := by
  have below := (h.key_bounds hc).2
  have pos := handleStep_pos
  lia

/-! ### Ownership -/

/-- Without a context, its modules and their kernels, no reference dangles. -/
theorem Ownership.dropContext (h : Ownership s) (c : Handle) : Ownership (s.dropContext c) where
  owner_alive {m loaded} hm := by
    obtain ⟨hm, hne⟩ := Table.get?_filter_eq_some_iff.1 hm
    exact Table.mem_keys_erase.2 ⟨by simpa using hne, h.owner_alive hm⟩
  function_listed {f entry} hf := by
    obtain ⟨hf, hne⟩ := Table.get?_filter_eq_some_iff.1 hf
    obtain ⟨loaded, hm, hname⟩ := h.function_listed hf
    exact ⟨loaded, Table.get?_filter_eq_some_iff.2 ⟨hm, by simpa [hm] using hne⟩, hname⟩
  listed_function {m f loaded name} hm hf := by
    obtain ⟨hm, hne⟩ := Table.get?_filter_eq_some_iff.1 hm
    exact Table.get?_filter_eq_some_iff.2 ⟨h.listed_function hm hf, by simpa [hm] using hne⟩

theorem Ownership.unload (h : Ownership s) (m : Handle) : Ownership { s with
    modules := s.modules.erase m
    functions := s.functions.filter fun _ f => f.module ≠ m } where
  owner_alive hm := h.owner_alive (Table.get?_erase_eq_some_iff.1 hm).2
  function_listed {f entry} hf := by
    obtain ⟨hf, hne⟩ := Table.get?_filter_eq_some_iff.1 hf
    obtain ⟨loaded, hm, hname⟩ := h.function_listed hf
    exact ⟨loaded, Table.get?_erase_eq_some_iff.2 ⟨by simpa using hne, hm⟩, hname⟩
  listed_function {m' f loaded name} hm hf := by
    obtain ⟨hne, hm⟩ := Table.get?_erase_eq_some_iff.1 hm
    exact Table.get?_filter_eq_some_iff.2 ⟨h.listed_function hm hf, by simpa using hne⟩

/-- A module that is loaded into a live context gets new handles, so that it disturbs no other. -/
theorem Ownership.addModule (h : Ownership s) (hn : Numbering s) {c : Handle}
    (hc : c ∈ s.contexts.keys) (globals : Table String Allocation) (entries : List String) :
    Ownership (addModule s c globals entries).2 where
  owner_alive {m loaded} hm := by
    rcases Decidable.em (m = s.lastHandle + handleStep) with rfl | hne
    · cases (Table.get?_insert_self ..).symm.trans hm
      exact hc
    · exact h.owner_alive ((Table.get?_insert_of_ne hne _).symm.trans hm)
  function_listed {f entry} hf := by
    rcases Table.exists_of_get?_foldl_insert hf with ⟨k, hk, rfl, rfl⟩ | hf
    · refine ⟨_, Table.get?_insert_self .., Table.mem_keys_ofList.2 ⟨(k.2, k.1), ?_, rfl⟩⟩
      exact List.mem_map.2 ⟨k, hk, rfl⟩
    · obtain ⟨loaded, hm, hname⟩ := h.function_listed hf
      have hne := hn.ne_next (k := .module) (Table.mem_keys.2 ⟨_, hm⟩)
      exact ⟨loaded, (Table.get?_insert_of_ne hne _).trans hm, hname⟩
  listed_function {m f loaded name} hm hf := by
    rcases Decidable.em (m = s.lastHandle + handleStep) with rfl | hne
    · cases (Table.get?_insert_self ..).symm.trans hm
      obtain ⟨k, hk, hkf⟩ := List.mem_map.1 (Table.mem_of_get?_ofList hf)
      obtain ⟨rfl, rfl⟩ := Prod.mk.inj hkf
      exact Table.get?_foldl_insert_of_mem (nodup_fst_numbered _ entries) hk _
    · have hm : s.modules.get? m = some loaded :=
        (Table.get?_insert_of_ne hne _).symm.trans hm
      have hold := h.listed_function hm hf
      refine (Table.get?_foldl_insert_of_forall_ne (fun k hk hkf => ?_) _).trans hold
      have hle := (hn.key_bounds (k := .function) (Table.mem_keys.2 ⟨_, hold⟩)).2
      have hlt : s.lastHandle + handleStep < k.1 := (mem_numbered hk).1
      lia

theorem Ownership.change (h : Ownership s) (hn : Numbering s) (hc : Change t s call s') :
    Ownership s' := by
  cases hc with
  | retainFirst | create =>
    exact { h with owner_alive := fun hm => Table.mem_keys_insert.2 (Or.inr (h.owner_alive hm)) }
  | releaseLast | destroyTop | destroyOther => exact { h.dropContext _ with }
  | @load _ _ _ _ cursor current valid placed =>
    have owned : Ownership { s with nextAddress := cursor } := { h with }
    exact owned.addModule { hn with } (current_eq_ok_iff.1 current).2.2 _ _
  | unload => exact h.unload _
  | _ => exact { h with }

/-! ### Primary contexts -/

/-- Primary contexts of two devices are two. -/
theorem Primacy.device_eq (h : Primacy s) {d d' : Int} {p p' : Primary}
    (hp : s.primaries.get? d = some p) (hp' : s.primaries.get? d' = some p')
    (hc : p.context = p'.context) : d = d' := by
  have := (h.primary_alive hp).2.symm.trans (hc ▸ (h.primary_alive hp').2)
  simpa using this

/-- Another count for a primary context. -/
theorem Primacy.withRetains (h : Primacy s) {d : Int} {p : Primary}
    (hp : s.primaries.get? d = some p) {n : Nat} (hn : 1 ≤ n) :
    Primacy { s with primaries := s.primaries.insert d { p with retains := n } } where
  primary_alive {d' p'} hp' := by
    rcases Decidable.em (d' = d) with rfl | hne
    · cases (Table.get?_insert_self ..).symm.trans hp'
      exact ⟨hn, (h.primary_alive hp).2⟩
    · exact h.primary_alive ((Table.get?_insert_of_ne hne _).symm.trans hp')
  primary_listed {c d'} hc := by
    obtain ⟨p', hp', hc'⟩ := h.primary_listed hc
    rcases Decidable.em (d'.ordinal = d) with rfl | hne
    · cases hp.symm.trans hp'
      exact ⟨_, Table.get?_insert_self .., hc'⟩
    · exact ⟨p', (Table.get?_insert_of_ne hne _).trans hp', hc'⟩
  device_known := h.device_known

/-- A new context on a device that there is; if it is primary, it is listed as that. -/
theorem Primacy.insertContext (h : Primacy s) {c : Handle} (hc : c ∉ s.contexts.keys) {d : Device}
    (hd : s.HasDevice d) : Primacy { s with contexts := s.contexts.insert c ⟨d, false⟩ } where
  primary_alive {d' p} hp := by
    obtain ⟨hr, hp⟩ := h.primary_alive hp
    have hne : p.context ≠ c := fun he => hc (he ▸ Table.mem_keys.2 ⟨_, hp⟩)
    exact ⟨hr, (Table.get?_insert_of_ne hne _).trans hp⟩
  primary_listed {c' d'} hc' := by
    rcases Decidable.em (c' = c) with rfl | hne
    · simp at hc'
    · exact h.primary_listed ((Table.get?_insert_of_ne hne _).symm.trans hc')
  device_known {c' context} hc' := by
    rcases Decidable.em (c' = c) with rfl | hne
    · cases (Table.get?_insert_self ..).symm.trans hc'
      exact hd
    · exact h.device_known ((Table.get?_insert_of_ne hne _).symm.trans hc')

theorem Primacy.insertPrimary (h : Primacy s) {c : Handle} (hc : c ∉ s.contexts.keys) {d : Device}
    (hd : s.HasDevice d) (hnone : s.primaries.get? d.ordinal = none) :
    Primacy { s with
      contexts := s.contexts.insert c ⟨d, true⟩
      primaries := s.primaries.insert d.ordinal ⟨c, 1⟩ } where
  primary_alive {d' p} hp := by
    rcases Decidable.em (d' = d.ordinal) with rfl | hne
    · cases (Table.get?_insert_self ..).symm.trans hp
      exact ⟨Nat.le_refl 1, Table.get?_insert_self ..⟩
    · obtain ⟨hr, hp⟩ := h.primary_alive ((Table.get?_insert_of_ne hne _).symm.trans hp)
      have hnc : p.context ≠ c := fun he => hc (he ▸ Table.mem_keys.2 ⟨_, hp⟩)
      exact ⟨hr, (Table.get?_insert_of_ne hnc _).trans hp⟩
  primary_listed {c' d'} hc' := by
    rcases Decidable.em (c' = c) with rfl | hne
    · cases (Table.get?_insert_self ..).symm.trans hc'
      exact ⟨_, Table.get?_insert_self .., rfl⟩
    · obtain ⟨p, hp, he⟩ := h.primary_listed ((Table.get?_insert_of_ne hne _).symm.trans hc')
      have hnd : d'.ordinal ≠ d.ordinal := fun hd' => by simp [← hd', hp] at hnone
      exact ⟨p, (Table.get?_insert_of_ne hnd _).trans hp, he⟩
  device_known {c' context} hc' := by
    rcases Decidable.em (c' = c) with rfl | hne
    · cases (Table.get?_insert_self ..).symm.trans hc'
      exact hd
    · exact h.device_known ((Table.get?_insert_of_ne hne _).symm.trans hc')

/-- A context that is not primary can go. -/
theorem Primacy.dropContext (h : Primacy s) {c : Handle} {d : Device}
    (hc : s.contexts.get? c = some ⟨d, false⟩) : Primacy (s.dropContext c) where
  primary_alive {d' p} hp := by
    obtain ⟨hr, hp⟩ := h.primary_alive hp
    have hne : p.context ≠ c := fun he => by simp [he, hc] at hp
    exact ⟨hr, Table.get?_erase_eq_some_iff.2 ⟨hne, hp⟩⟩
  primary_listed hc' := h.primary_listed (Table.get?_erase_eq_some_iff.1 hc').2
  device_known hc' := h.device_known (Table.get?_erase_eq_some_iff.1 hc').2

/-- A primary context can go together with what is listed for its device. -/
theorem Primacy.dropPrimary (h : Primacy s) {d : Int} {p : Primary}
    (hp : s.primaries.get? d = some p) :
    Primacy { s.dropContext p.context with primaries := s.primaries.erase d } where
  primary_alive {d' p'} hp' := by
    obtain ⟨hne, hp'⟩ := Table.get?_erase_eq_some_iff.1 hp'
    obtain ⟨hr, alive⟩ := h.primary_alive hp'
    exact ⟨hr, Table.get?_erase_eq_some_iff.2 ⟨fun he => hne (h.device_eq hp' hp he), alive⟩⟩
  primary_listed {c d'} hc := by
    obtain ⟨hne, hc⟩ := Table.get?_erase_eq_some_iff.1 hc
    obtain ⟨p', hp', rfl⟩ := h.primary_listed hc
    have hnd : d'.ordinal ≠ d := by
      rintro rfl
      cases hp.symm.trans hp'
      exact hne rfl
    exact ⟨p', Table.get?_erase_eq_some_iff.2 ⟨hnd, hp'⟩, rfl⟩
  device_known hc := h.device_known (Table.get?_erase_eq_some_iff.1 hc).2

theorem Primacy.change (h : Primacy s) (hn : Numbering s) (hc : Change t s call s') :
    Primacy s' := by
  have fresh : s.lastHandle + handleStep ∉ s.contexts.keys :=
    fun hc => hn.ne_next (k := .context) hc rfl
  cases hc with
  | retainAgain up retained => exact h.withRetains retained (Nat.le_add_left 1 _)
  | retainFirst up known unretained => exact { h.insertPrimary fresh known unretained with }
  | releaseOne up retained more => exact h.withRetains retained (Nat.le_sub_one_of_lt more)
  | releaseLast up retained last => exact h.dropPrimary retained
  | create up known => exact { h.insertContext fresh known with }
  | destroyTop up alive top => exact { h.dropContext alive with }
  | destroyOther up alive top => exact h.dropContext alive
  | _ => exact { h with }

/-! ### Before the start -/

/-- Only starting changes the books of a driver that has not been started. -/
theorem Change.eq_of_not_initialized (hc : Change t s call s') (h : s'.initialized = false) :
    s' = s := by
  cases hc with
  | nothing => rfl
  | start => cases h
  | beginLink up | retainAgain up | retainFirst up | releaseOne up | releaseLast up | pop up
  | replace up | create up | destroyTop up | destroyOther up | extendLink up | endLink up
  | unload up | launch _ up | memory _ up => exact absurd (up.symm.trans h) (by decide)
  | load _ current =>
    exact absurd ((current_eq_ok_iff.1 current).1.symm.trans h) (by decide)

/-! ### Runs -/

theorem Integrity.change (h : Integrity s) (hc : Change t s call s') : Integrity s' where
  toOwnership := h.toOwnership.change h.toNumbering hc
  toPrimacy := h.toPrimacy.change h.toNumbering hc
  toNumbering := h.toNumbering.change hc
  blank hi := by
    obtain rfl := hc.eq_of_not_initialized hi
    exact h.blank hi

theorem integrity_fresh (devices : Int) (capability : Int × Int) :
    Integrity (fresh devices capability) where
  owner_alive hm := by simp [fresh] at hm
  function_listed hf := by simp [fresh] at hf
  listed_function hm := by simp [fresh] at hm
  primary_alive hp := by simp [fresh] at hp
  primary_listed hc := by simp [fresh] at hc
  device_known hc := by simp [fresh] at hc
  disjoint {k _ _} hk := by cases k <;> simp [fresh, keysOf] at hk
  key_bounds {k _} hk := by cases k <;> simp [fresh, keysOf] at hk
  stack_bounds ht := by simp [fresh] at ht
  blank _ := ⟨rfl, rfl, fun _ => rfl, rfl, rfl, rfl, rfl⟩

theorem Integrity.run (h : Integrity s) (es : List Event) : Integrity (s.run es) :=
  run_induction_change (fun _ _ _ _ => Integrity.change) h es

/-- **No reference dangles after any run**: whatever calls any threads make, in any order. -/
theorem integrity_run (devices : Int) (capability : Int × Int) (es : List Event) :
    Integrity ((fresh devices capability).run es) :=
  (integrity_fresh devices capability).run es

end GpuDriver.InProcess
