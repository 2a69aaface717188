import GpuDriver.Table

/-!
# Keys of a table, and inserting a list

A key is in a table when it has a value there (`mem_keys`). To take away what is not there changes nothing
(`filter_eq_self`, `erase_eq_self`). Inserting a list of pairs one after the
other gives each key the last value that the list has for it (`get?_foldl_insert`).
-/

namespace GpuDriver.Table

variable {κ ν α : Type} [DecidableEq κ]

/-! ### Keys -/

theorem mem_keys {t : Table κ ν} {k : κ} : k ∈ t.keys ↔ ∃ v, t.get? k = some v := by
  rw [mem_keys_iff, Option.isSome_iff_exists]

theorem contains_iff {t : Table κ ν} {k : κ} : t.contains k = true ↔ ∃ v, t.get? k = some v := by
  rw [contains, Option.isSome_iff_exists]

omit [DecidableEq κ] in
@[simp] theorem keys_empty : (empty : Table κ ν).keys = [] := rfl

theorem mem_keys_insert {t : Table κ ν} {k k' : κ} {v : ν} :
    k' ∈ (t.insert k v).keys ↔ k' = k ∨ k' ∈ t.keys := by
  rw [mem_keys_iff, mem_keys_iff, get?_insert]
  by_cases h : k' = k <;> simp [h]

theorem mem_keys_of_mem_keys_filter {p : κ → ν → Bool} {t : Table κ ν} {k : κ}
    (h : k ∈ (t.filter p).keys) : k ∈ t.keys := by
  rw [mem_keys] at h ⊢
  obtain ⟨v, hv⟩ := h
  rw [get?_filter] at hv
  exact ⟨v, (Option.filter_eq_some_iff.1 hv).1⟩

theorem mem_keys_erase {t : Table κ ν} {k k' : κ} :
    k' ∈ (t.erase k).keys ↔ k' ≠ k ∧ k' ∈ t.keys := by
  rw [mem_keys_iff, mem_keys_iff, get?_erase]
  by_cases h : k' = k <;> simp [h]

/-! ### Values of other tables -/

theorem get?_filter_eq_some_iff {p : κ → ν → Bool} {t : Table κ ν} {k : κ} {v : ν} :
    (t.filter p).get? k = some v ↔ t.get? k = some v ∧ p k v = true := by
  rw [get?_filter, Option.filter_eq_some_iff]

theorem get?_erase_eq_some_iff {t : Table κ ν} {k k' : κ} {v : ν} :
    (t.erase k).get? k' = some v ↔ k' ≠ k ∧ t.get? k' = some v := by
  rw [get?_erase]
  by_cases h : k' = k <;> simp [h]

theorem get?_insert_of_ne {t : Table κ ν} {k k' : κ} (h : k' ≠ k) (v : ν) :
    (t.insert k v).get? k' = t.get? k' := by
  rw [get?_insert, if_neg h]

@[simp] theorem get?_insert_self (t : Table κ ν) (k : κ) (v : ν) :
    (t.insert k v).get? k = some v := by
  rw [get?_insert, if_pos rfl]

theorem contains_insert (t : Table κ ν) (k k' : κ) (v : ν) :
    (t.insert k v).contains k' = if k' = k then true else t.contains k' := by
  rw [contains, get?_insert]
  split <;> rfl

theorem contains_erase (t : Table κ ν) (k k' : κ) :
    (t.erase k).contains k' = if k' = k then false else t.contains k' := by
  rw [contains, get?_erase]
  split <;> rfl

/-! ### What stands in a table -/

/-- What stands in the table is what its key has. -/
theorem get?_of_mem_entries {t : Table κ ν} {k : κ} {v : ν} (h : (k, v) ∈ t.entries) :
    t.get? k = some v := by
  obtain ⟨front, back, split⟩ := List.append_of_mem h
  have nodup := t.nodup_keys
  rw [split, List.map_append, List.map_cons, List.nodup_append] at nodup
  have absent : front.lookup k = none := by
    rw [List.lookup_eq_none_iff]
    intro e he
    have apart := nodup.2.2 e.1 (List.mem_map_of_mem he) k List.mem_cons_self
    simpa using Ne.symm apart
  rw [get?, split, List.lookup_append, absent]
  simp

/-- A test that everything in the table passes takes nothing away. -/
theorem filter_eq_self {p : κ → ν → Bool} {t : Table κ ν}
    (h : ∀ k v, t.get? k = some v → p k v = true) : t.filter p = t := by
  obtain ⟨entries, nodup⟩ := t
  simp only [filter, mk.injEq, List.filter_eq_self]
  exact fun e he => h e.1 e.2 (get?_of_mem_entries (t := ⟨entries, nodup⟩) he)

/-- To take away a key that is not there takes nothing away. -/
theorem erase_eq_self {t : Table κ ν} {k : κ} (absent : k ∉ t.keys) : t.erase k = t := by
  refine filter_eq_self fun k' v found => ?_
  have other : k' ≠ k := fun same => absent (same ▸ mem_keys.2 ⟨v, found⟩)
  simpa using other

/-! ### Inserting a list -/

section Lists

variable (key : α → κ) (value : α → ν)

/-- The last member of the list with the key counts, and the table if there is none. -/
theorem get?_foldl_insert (l : List α) (t : Table κ ν) (k : κ) :
    (l.foldl (fun t a => t.insert (key a) (value a)) t).get? k =
      ((l.reverse.find? fun a => key a = k).map value).or (t.get? k) := by
  induction l generalizing t with
  | nil => rfl
  | cons a rest ih =>
    rw [List.foldl_cons, ih, get?_insert, List.reverse_cons, List.find?_append]
    by_cases h : k = key a
    · simp [h]
    · have h' : ¬ key a = k := fun e => h e.symm
      simp [h, h']

variable {key value}

theorem exists_of_get?_foldl_insert {l : List α} {t : Table κ ν} {k : κ} {v : ν}
    (h : (l.foldl (fun t a => t.insert (key a) (value a)) t).get? k = some v) :
    (∃ a ∈ l, key a = k ∧ value a = v) ∨ t.get? k = some v := by
  rw [get?_foldl_insert, Option.or_eq_some_iff] at h
  rcases h with h | ⟨-, h⟩
  · obtain ⟨a, ha, hv⟩ := Option.map_eq_some_iff.1 h
    have hk : key a = k := by simpa using List.find?_some ha
    exact Or.inl ⟨a, by simpa using List.mem_of_find?_eq_some ha, hk, hv⟩
  · exact Or.inr h

theorem get?_foldl_insert_of_forall_ne {l : List α} {k : κ} (h : ∀ a ∈ l, key a ≠ k)
    (t : Table κ ν) :
    (l.foldl (fun t a => t.insert (key a) (value a)) t).get? k = t.get? k := by
  have hnone : l.reverse.find? (fun a => key a = k) = none := by
    rw [List.find?_eq_none]
    intro a ha
    simpa using h a (List.mem_reverse.1 ha)
  rw [get?_foldl_insert, hnone, Option.map_none, Option.none_or]

/-- With its key only once in the list, a member counts. -/
theorem get?_foldl_insert_of_mem {l : List α} (hn : (l.map key).Nodup) {a : α} (ha : a ∈ l)
    (t : Table κ ν) :
    (l.foldl (fun t a => t.insert (key a) (value a)) t).get? (key a) = some (value a) := by
  induction l generalizing t with
  | nil => simp at ha
  | cons b rest ih =>
    obtain ⟨hb, hrest⟩ := List.nodup_cons.1 hn
    rcases List.mem_cons.1 ha with rfl | ha
    · have once : ∀ c ∈ rest, key c ≠ key a := fun c hc he => hb (List.mem_map.2 ⟨c, hc, he⟩)
      rw [List.foldl_cons, get?_foldl_insert_of_forall_ne once, get?_insert_self]
    · exact ih hrest ha _

theorem mem_keys_foldl_insert {l : List α} {t : Table κ ν} {k : κ} :
    k ∈ (l.foldl (fun t a => t.insert (key a) (value a)) t).keys ↔
      (∃ a ∈ l, key a = k) ∨ k ∈ t.keys := by
  induction l generalizing t with
  | nil => simp
  | cons a rest ih =>
    rw [List.foldl_cons, ih, mem_keys_insert]
    constructor
    · rintro (⟨b, hb, rfl⟩ | rfl | h)
      · exact Or.inl ⟨b, List.mem_cons_of_mem _ hb, rfl⟩
      · exact Or.inl ⟨a, List.mem_cons_self, rfl⟩
      · exact Or.inr h
    · rintro (⟨b, hb, rfl⟩ | h)
      · rcases List.mem_cons.1 hb with rfl | hb
        · exact Or.inr (Or.inl rfl)
        · exact Or.inl ⟨b, hb, rfl⟩
      · exact Or.inr (Or.inr h)

theorem mem_of_get?_ofList {pairs : List (κ × ν)} {k : κ} {v : ν}
    (h : (ofList pairs).get? k = some v) : (k, v) ∈ pairs := by
  rcases exists_of_get?_foldl_insert h with ⟨⟨a, b⟩, he, rfl, rfl⟩ | h
  · exact he
  · simp at h

theorem mem_keys_ofList {pairs : List (κ × ν)} {k : κ} :
    k ∈ (ofList pairs).keys ↔ ∃ e ∈ pairs, e.1 = k := by
  rw [ofList, mem_keys_foldl_insert, keys_empty]
  simp

end Lists

end GpuDriver.Table
