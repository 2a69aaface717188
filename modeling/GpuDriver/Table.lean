/-!
# Tables

A table gives each of finitely many keys a value. `get?` is the view: what each operation does to a
table is said by what it does to `get?`. No key occurs twice, so `size` counts the keys.
-/

namespace GpuDriver

/-- Finitely many keys, each with a value. -/
structure Table (κ ν : Type) where
  /-- The keys with their values, the newest first. -/
  entries : List (κ × ν)
  /-- No key occurs twice. -/
  nodup_keys : (entries.map Prod.fst).Nodup

namespace Table

variable {κ ν : Type}

/-- The table without keys. -/
def empty : Table κ ν := ⟨[], by simp⟩

instance : EmptyCollection (Table κ ν) := ⟨empty⟩

instance : Inhabited (Table κ ν) := ⟨empty⟩

/-- The keys. -/
def keys (t : Table κ ν) : List κ := t.entries.map Prod.fst

/-- How many keys there are. -/
def size (t : Table κ ν) : Nat := t.entries.length

/-- The table with only those keys whose key and value pass the test. -/
def filter (p : κ → ν → Bool) (t : Table κ ν) : Table κ ν where
  entries := t.entries.filter fun e => p e.1 e.2
  nodup_keys := t.nodup_keys.sublist ((List.filter_sublist).map _)

/-- The table with each value replaced. -/
def map {μ : Type} (f : ν → μ) (t : Table κ ν) : Table κ μ where
  entries := t.entries.map fun e => (e.1, f e.2)
  nodup_keys := by simpa [List.map_map, Function.comp_def] using t.nodup_keys

variable [DecidableEq κ]

/-- The value of a key. -/
def get? (t : Table κ ν) (k : κ) : Option ν := t.entries.lookup k

/-- The key has a value. -/
def contains (t : Table κ ν) (k : κ) : Bool := (t.get? k).isSome

/-- The table without a key. -/
def erase (t : Table κ ν) (k : κ) : Table κ ν := t.filter fun k' _ => k' ≠ k

/-- The table with a key given a value, whatever it had before. -/
def insert (t : Table κ ν) (k : κ) (v : ν) : Table κ ν where
  entries := (k, v) :: (t.erase k).entries
  nodup_keys := by
    refine List.nodup_cons.2 ⟨?_, (t.erase k).nodup_keys⟩
    simp [erase, filter]

/-- The table of a list of pairs; of two values for one key the later counts. -/
def ofList (pairs : List (κ × ν)) : Table κ ν :=
  pairs.foldl (fun t e => t.insert e.1 e.2) empty

/-! ### What the operations do to `get?` -/

@[simp] theorem get?_empty (k : κ) : (empty : Table κ ν).get? k = none := rfl

theorem lookup_filter_key {p : κ → ν → Bool} {k : κ} :
    ∀ {l : List (κ × ν)}, (l.map Prod.fst).Nodup →
      (l.filter fun e => p e.1 e.2).lookup k = (l.lookup k).filter (p k)
  | [], _ => by simp
  | (a, v) :: l, h => by
    have ih := lookup_filter_key (p := p) (k := k) (List.nodup_cons.1 h).2
    have absent : l.lookup a = none := by
      simp only [List.lookup_eq_none_iff]
      intro e he
      have := (List.nodup_cons.1 h).1
      simp only [List.mem_map, not_exists, not_and] at this
      simpa using fun heq => this e he heq.symm
    by_cases hk : k = a
    · subst hk
      by_cases hp : p k v <;> simp [hp, ih, absent, Option.filter]
    · have hb : (k == a) = false := by simpa using hk
      by_cases hp : p a v <;> simp [hp, List.lookup_cons, hb, ih]

theorem get?_filter (p : κ → ν → Bool) (t : Table κ ν) (k : κ) :
    (t.filter p).get? k = (t.get? k).filter (p k) :=
  lookup_filter_key t.nodup_keys

theorem get?_erase (t : Table κ ν) (k k' : κ) :
    (t.erase k).get? k' = if k' = k then none else t.get? k' := by
  rw [erase, get?_filter]
  by_cases h : k' = k <;> cases t.get? k' <;> simp [h]

theorem get?_insert (t : Table κ ν) (k k' : κ) (v : ν) :
    (t.insert k v).get? k' = if k' = k then some v else t.get? k' := by
  by_cases h : k' = k
  · simp [insert, get?, h]
  · have hb : (k' == k) = false := by simpa using h
    have := get?_erase t k k'
    simp only [h, if_false] at this ⊢
    simpa [insert, get?, List.lookup_cons, hb] using this

theorem mem_keys_iff {t : Table κ ν} {k : κ} : k ∈ t.keys ↔ (t.get? k).isSome := by
  simp only [keys, get?]
  induction t.entries with
  | nil => simp
  | cons e l ih =>
    obtain ⟨a, v⟩ := e
    by_cases h : k = a
    · simp [h]
    · have hb : (k == a) = false := by simpa using h
      simp [h, List.lookup_cons, hb, ih]

end Table

end GpuDriver
