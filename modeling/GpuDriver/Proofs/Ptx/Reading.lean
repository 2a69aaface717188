import GpuDriver.Proofs.Ptx.Kernels
import GpuDriver.Proofs.Ptx.Variables

/-!
# Reading what the grammar writes

A text that writes a module is read as that module: it is a module, it defines what the tree says, and
nothing in it is open at its end (`Module.Writes.read`). The induction is on the items: each by itself
defines what it should and leaves nothing open (`Item.Spells.reads`), so that the next one is read as if
it came first.
-/

namespace GpuDriver.Ptx

open Text

/-! ### Modules -/

/-- **An item** by itself defines what its tree says and leaves nothing open. -/
theorem Item.Spells.reads {item : Item} {cs : List Char} (h : item.Spells cs) :
    Reads cs item.symbols := by
  cases h with
  | var hf hg => exact Variable.reads hf hg
  | declared hf => exact External.reads hf
  | kernel hf hg hg' hg'' => exact Kernel.reads hf hg hg' hg''

theorem SpellsItems.reads {items : List Item} {cs : List Char} (h : SpellsItems items cs) :
    Reads cs ⟨items.flatMap fun item => item.symbols.entries,
      items.flatMap fun item => item.symbols.globals⟩ := by
  induction h with
  | nil => exact reads_nil
  | cons hi hs h ih => exact hi.reads.space_append hs ih

/-- **A text without comments** that spells a module defines what the module does. -/
theorem Module.Spells.reads {m : Module} {cs : List Char} (h : m.Spells cs) : Reads cs m.symbols := by
  obtain ⟨hg, hf, hg', hs, hi⟩ := h
  rename_i gap front gap' items
  have header := m.header.reads hf
  rw [List.append_assoc, List.append_assoc, List.append_assoc, ← List.append_assoc front,
    ← List.append_assoc (front ++ m.header.last)]
  refine Reads.gap_append hg ?_
  by_cases hgap : gap' = []
  · have hnone : m.items = [] := Classical.byContradiction fun hne => hs hne hgap
    have hdefined : m.symbols = ⟨[], []⟩ := by rw [symbols, hnone]; rfl
    rw [hnone] at hi
    cases hi
    rw [hgap, hdefined, List.append_nil, List.append_nil]
    exact header
  · exact header.space_append ⟨hgap, hg'⟩ hi.reads

theorem Module.Spells.mem_words {m : Module} {cs : List Char} (h : m.Spells cs) :
    ".version".toList ∈ words cs ∧ ".target".toList ∈ words cs := by
  obtain ⟨hg, hf, hg', hs, hi⟩ := h
  rw [List.append_assoc, List.append_assoc, List.append_assoc, words_gap_append hg,
    hf.words_append m.header.isWord_front]
  exact ⟨List.mem_append_left _ (List.mem_append_left _ List.mem_cons_self), List.mem_append_left _
    (List.mem_append_left _ (List.mem_cons_of_mem _ (List.mem_cons_of_mem _ List.mem_cons_self)))⟩

/-! ### Comments -/

/-- **Comments in the place of blanks** are taken out again, and none of them is open at the end. -/
theorem Commented.codeOf_eq {text body : List Char} (h : Commented text body) :
    codeOf .code text = body ∧ modeAfter .code text = .code := by
  induction h with
  | nil => exact ⟨rfl, rfl⟩
  | char opens h ih =>
    rw [(codeOf_char opens).1, (codeOf_char opens).2, ih.1, ih.2]
    exact ⟨rfl, rfl⟩
  | line inside h ih =>
    rw [codeOf, modeAfter, (codeOf_line_append inside _).1, (codeOf_line_append inside _).2, ih.1, ih.2]
    exact ⟨rfl, rfl⟩
  | block inside h ih =>
    rw [codeOf, modeAfter, (codeOf_block_append inside _).1, (codeOf_block_append inside _).2, ih.1,
      ih.2]
    exact ⟨rfl, rfl⟩

/-- A text without `/` in front makes no difference to the comments. -/
theorem Commented.append_left {front text body : List Char} (plain : '/' ∉ front)
    (h : Commented text body) : Commented (front ++ text) (front ++ body) := by
  induction front with
  | nil => exact h
  | cons c rest ih =>
    obtain ⟨hc, hrest⟩ := List.ne_and_not_mem_of_not_mem_cons plain
    exact .char (fun heq => absurd heq.symm hc) (ih hrest)

theorem commented_self {cs : List Char} (plain : '/' ∉ cs) : Commented cs cs := by
  simpa using Commented.append_left plain .nil

/-! ### Texts -/

section Writes

variable {m : Module} {text : String}

/-- **A text that writes a module** is read as that module: it is one, it defines what the module does,
and nothing in it is open at its end. -/
theorem Module.Writes.read (h : m.Writes text) :
    isModule text = true ∧ Ptx.symbols text = m.symbols ∧ Complete text := by
  obtain ⟨body, spells, commented⟩ := h
  obtain ⟨hbody, hmode⟩ := commented.codeOf_eq
  have hbody : bodyOf text = body := (bodyOf_eq text).trans hbody
  obtain ⟨settled, defined, balanced⟩ := spells.reads
  obtain ⟨version, target⟩ := spells.mem_words
  refine ⟨?_, ?_, complete_iff_settled.2 ⟨?_, hbody ▸ settled⟩⟩
  · simp only [isModule_eq, hbody, Bool.and_eq_true, List.contains_iff_mem]
    exact ⟨⟨version, target⟩, balanced⟩
  · rw [symbols_eq, hbody, defined]
  · rw [hmode]
    decide

/-! ### The end of a text -/

/-- A text with comments ends as the text without them does, or with a comment that is closed. -/
theorem Commented.getLast?_getD {text body : List Char} (h : Commented text body) (c : Char) :
    text.getLast?.getD c = '/' ∨ text.getLast?.getD c = body.getLast?.getD c := by
  induction h generalizing c with
  | nil => exact Or.inr rfl
  | char opens h ih => simpa only [List.getLast?_cons, Option.getD_some] using ih _
  | line inside h ih =>
    simpa only [List.getLast?_cons, List.getLast?_append, Option.some_or, Option.getD_some] using ih _
  | @block content text body inside h ih =>
    have hbody := ih '/'
    simp only [List.getLast?_cons, List.getLast?_append, Option.some_or, Option.getD_some]
    cases hlast : body.getLast? with
    | none =>
      rw [hlast] at hbody
      exact Or.inl (hbody.elim id id)
    | some d => simpa [hlast] using hbody

theorem exists_getLast?_of_plain {cs : List Char} (hne : cs ≠ []) (plain : Plain cs) (front : List Char) :
    ∃ c, (front ++ cs).getLast? = some c ∧ (isBlank c = true ∨ isWordChar c = true) := by
  refine ⟨cs.getLast hne, ?_, plain _ (List.getLast_mem hne)⟩
  rw [List.getLast?_append, List.getLast?_eq_some_getLast hne, Option.some_or]

theorem SpellsItems.getLast? {items : List Item} {cs : List Char} (h : SpellsItems items cs) :
    cs = [] ∨ ∃ c, cs.getLast? = some c ∧ (isBlank c = true ∨ isWordChar c = true) := by
  induction h with
  | nil => exact Or.inl rfl
  | cons hi hs h ih =>
    right
    obtain rfl | ⟨c, hc, hplain⟩ := ih
    · rw [List.append_nil]
      exact exists_getLast?_of_plain hs.1 hs.2.plain _
    · exact ⟨c, by rw [List.getLast?_append, hc, Option.some_or], hplain⟩

theorem Module.Spells.getLast? {m : Module} {cs : List Char} (h : m.Spells cs) :
    ∃ c, cs.getLast? = some c ∧ (isBlank c = true ∨ isWordChar c = true) := by
  obtain ⟨hg, hf, hg', hs, hi⟩ := h
  obtain rfl | ⟨c, hc, hplain⟩ := hi.getLast?
  · rw [List.append_nil, List.append_assoc]
    exact exists_getLast?_of_plain (List.append_ne_nil_of_left_ne_nil m.header.isWord_last.ne_nil _)
      (m.header.isWord_last.plain.append hg'.plain) _
  · exact ⟨c, by rw [List.getLast?_append, hc, Option.some_or], hplain⟩

/-- A text that writes a module does not end with a NUL. -/
theorem Module.Writes.getLast?_ne (h : m.Writes text) : text.toList.getLast? ≠ some '\x00' := by
  obtain ⟨body, spells, commented⟩ := h
  obtain ⟨c, hc, hplain⟩ := spells.getLast?
  intro heq
  obtain h | h := commented.getLast?_getD ' '
  · rw [heq] at h
    exact absurd h (by decide)
  · rw [heq, hc] at h
    obtain rfl : '\x00' = c := h
    exact absurd hplain (by decide)

end Writes

end GpuDriver.Ptx
