import GpuDriver.Proofs.InProcess.Change

/-!
# Handles of the in-process driver

A handle names a context, a module, a kernel or a link session (`Kind`). The driver gives handles out in
ascending order: whatever a change makes alive has a handle above the last one before it and not above
the last one after it, and no two kinds of things get the same (`Change.issued`).
-/

namespace GpuDriver.InProcess

open State

/-- What a handle can name. -/
inductive Kind
  | context | module | function | link
deriving DecidableEq

/-- The handles that name something of a kind. -/
def State.keysOf (s : State) : Kind → List Handle
  | .context => s.contexts.keys
  | .module => s.modules.keys
  | .function => s.functions.keys
  | .link => s.links.keys

/-! ### The handles of a module that is loaded -/

theorem handleStep_pos : 0 < handleStep := by decide

theorem mem_numbered {last : Handle} {names : List String} {k : Handle × String}
    (h : k ∈ numbered last names) :
    last < k.1 ∧ k.1 ≤ last + handleStep * names.length ∧ k.2 ∈ names := by
  induction names generalizing last with
  | nil => simp [numbered] at h
  | cons name rest ih =>
    have pos := handleStep_pos
    rw [List.length_cons, Nat.mul_succ]
    rcases List.mem_cons.1 h with rfl | h
    · exact ⟨by dsimp only; lia, by dsimp only; lia, List.mem_cons_self⟩
    · obtain ⟨above, below, hm⟩ := ih h
      exact ⟨by lia, by lia, List.mem_cons_of_mem _ hm⟩

theorem nodup_fst_numbered (last : Handle) (names : List String) :
    ((numbered last names).map Prod.fst).Nodup := by
  induction names generalizing last with
  | nil => simp [numbered]
  | cons name rest ih =>
    refine List.nodup_cons.2 ⟨fun h => ?_, ih _⟩
    obtain ⟨k, hk, he⟩ := List.mem_map.1 h
    have := (mem_numbered hk).1
    lia

/-! ### New handles -/

/-- Between `s` and `s'` handles went up, and those that name something of a kind in `s'` did so in `s`
or are new; `kind` tells what the new ones name. -/
def Issued (s s' : State) (kind : Handle → Kind) : Prop :=
  s.lastHandle ≤ s'.lastHandle ∧ ∀ k h, h ∈ s'.keysOf k →
    h ∈ s.keysOf k ∨ (s.lastHandle < h ∧ h ≤ s'.lastHandle ∧ kind h = k)

/-- Nothing new if the handles of each kind are some of those before. -/
theorem issued_of_subset {s s' : State} (hl : s'.lastHandle = s.lastHandle)
    (h : ∀ k, s'.keysOf k ⊆ s.keysOf k) : Issued s s' fun _ => .context :=
  ⟨(Nat.le_of_eq hl.symm), fun k _ hm => Or.inl (h k hm)⟩

/-- One new handle, of the kind `k`. -/
theorem issued_of_one {s s' : State} (k : Kind) (hl : s'.lastHandle = s.lastHandle + handleStep)
    (hnew : ∀ h, h ∈ s'.keysOf k → h = s.lastHandle + handleStep ∨ h ∈ s.keysOf k)
    (hold : ∀ k', k' ≠ k → s'.keysOf k' = s.keysOf k') : Issued s s' fun _ => k := by
  have pos := handleStep_pos
  refine ⟨by lia, fun k' h hm => ?_⟩
  by_cases hk : k' = k
  · subst hk
    rcases hnew h hm with rfl | hm
    · exact Or.inr ⟨by lia, (Nat.le_of_eq hl.symm), rfl⟩
    · exact Or.inl hm
  · exact Or.inl (hold k' hk ▸ hm)

theorem keysOf_dropContext_subset (s : State) (c : Handle) (k : Kind) :
    (s.dropContext c).keysOf k ⊆ s.keysOf k := by
  intro h hm
  cases k with
  | context => exact (Table.mem_keys_erase.1 hm).2
  | module | function => exact Table.mem_keys_of_mem_keys_filter hm
  | link => exact hm

theorem issued_addModule (s : State) (context : Handle) (globals : Table String Allocation)
    (entries : List String) :
    Issued s (addModule s context globals entries).2
      fun h => if h = s.lastHandle + handleStep then .module else .function := by
  have pos := handleStep_pos
  refine ⟨show s.lastHandle ≤ s.lastHandle + handleStep + handleStep * entries.length by lia,
    fun k h hm => ?_⟩
  cases k with
  | context | link => exact Or.inl hm
  | module =>
    rcases Table.mem_keys_insert.1 hm with rfl | hm
    · exact Or.inr ⟨show s.lastHandle < s.lastHandle + handleStep by lia,
        Nat.le_add_right _ _, if_pos rfl⟩
    · exact Or.inl hm
  | function =>
    rcases Table.mem_keys_foldl_insert.1 hm with ⟨f, hf, rfl⟩ | hm
    · obtain ⟨above, below, -⟩ := mem_numbered hf
      have above : s.lastHandle + handleStep < f.1 := above
      exact Or.inr ⟨by lia, below, if_neg (by lia)⟩
    · exact Or.inl hm

/-- **What a change makes alive has a new handle**, and each new handle names one kind of thing. -/
theorem Change.issued {t : ThreadId} {s s' : State} {c : Driver.Call} (h : Change t s c s') :
    ∃ kind, Issued s s' kind := by
  cases h with
  | retainFirst up known unretained =>
    refine ⟨_, issued_of_one .context rfl (fun h => Table.mem_keys_insert.1) fun k hk => ?_⟩
    cases k <;> first | rfl | exact absurd rfl hk
  | create up known =>
    refine ⟨_, issued_of_one .context rfl (fun h => Table.mem_keys_insert.1) fun k hk => ?_⟩
    cases k <;> first | rfl | exact absurd rfl hk
  | beginLink up =>
    refine ⟨_, issued_of_one .link rfl (fun h => Table.mem_keys_insert.1) fun k hk => ?_⟩
    cases k <;> first | rfl | exact absurd rfl hk
  | load c current valid placed => exact ⟨_, issued_addModule _ _ _ _⟩
  | releaseLast up retained last =>
    exact ⟨_, issued_of_subset rfl (keysOf_dropContext_subset s _)⟩
  | destroyTop up alive top => exact ⟨_, issued_of_subset rfl (keysOf_dropContext_subset s _)⟩
  | destroyOther up alive top => exact ⟨_, issued_of_subset rfl (keysOf_dropContext_subset s _)⟩
  | extendLink up alive read valid =>
    refine ⟨_, issued_of_subset rfl fun k h hm => ?_⟩
    cases k with
    | context | module | function => exact hm
    | link =>
      rcases Table.mem_keys_insert.1 hm with rfl | hm
      · exact Table.mem_keys.2 ⟨_, alive⟩
      · exact hm
  | endLink up alive =>
    refine ⟨_, issued_of_subset rfl fun k h hm => ?_⟩
    cases k with
    | context | module | function => exact hm
    | link => exact (Table.mem_keys_erase.1 hm).2
  | unload up =>
    refine ⟨_, issued_of_subset rfl fun k h hm => ?_⟩
    cases k with
    | context | link => exact hm
    | module => exact (Table.mem_keys_erase.1 hm).2
    | function => exact Table.mem_keys_of_mem_keys_filter hm
  | nothing | memory | start | retainAgain | releaseOne | pop | replace | launch =>
    exact ⟨_, issued_of_subset rfl fun k => by cases k <;> exact List.Subset.refl _⟩

theorem Change.lastHandle_le {t : ThreadId} {s s' : State} {c : Driver.Call}
    (h : Change t s c s') : s.lastHandle ≤ s'.lastHandle := by
  obtain ⟨_, up, -⟩ := h.issued
  exact up

end GpuDriver.InProcess
