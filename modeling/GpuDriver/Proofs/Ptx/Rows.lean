import GpuDriver.Proofs.Ptx.Grammar

/-!
# Words of the grammar

The words in front of a name, the names and the numerals are made of few characters, none of them a blank
(`isWordChar`). So a row of them has just these words (`Row.words_append`), and a text of such words and
blanks has none of the characters that end a declaration or open a brace (`Plain.not_mem`).
-/

namespace GpuDriver.Ptx

open Text

/-! ### Characters and words of a declaration -/

/-- A character of the words in front of a name, of a name, or of extents. -/
def isWordChar (c : Char) : Bool := c.isAlphanum || ['.', '_', '$', '%', '[', ']'].contains c

/-- Blanks lie outside of the visible characters of ASCII. -/
theorem isBlank_of_visible {c : Char} (low : '!' ≤ c) (high : c ≤ '~') : isBlank c = false := by
  rw [← Bool.not_eq_true]
  intro hb
  simp only [isBlank, Bool.or_eq_true, Bool.and_eq_true, decide_eq_true_eq, beq_iff_eq] at hb
  obtain ((((((((((h | rfl) | rfl) | rfl) | rfl) | h) | rfl) | rfl) | rfl) | rfl) | rfl) := hb
  · exact absurd (Char.le_trans low h.2) (by decide)
  · exact absurd low (by decide)
  · exact absurd high (by decide)
  · exact absurd high (by decide)
  · exact absurd high (by decide)
  · exact absurd (Char.le_trans h.1 high) (by decide)
  all_goals exact absurd high (by decide)

theorem isBlank_of_isWordChar {c : Char} (h : isWordChar c = true) : isBlank c = false := by
  have visible : '!' ≤ c ∧ c ≤ '~' := by
    delta isWordChar Char.isAlphanum Char.isAlpha Char.isUpper Char.isLower Char.isDigit at h
    simp only [Bool.or_eq_true, Bool.and_eq_true, decide_eq_true_eq, List.contains_iff_mem,
      List.mem_cons, List.not_mem_nil, or_false] at h
    obtain ((h | h) | h) | rfl | rfl | rfl | rfl | rfl | rfl := h
    iterate 3 exact ⟨Char.le_trans (by decide) h.1, Char.le_trans h.2 (by decide)⟩
    all_goals decide
  exact isBlank_of_visible visible.1 visible.2

/-- A word of a declaration. -/
structure IsWord (word : List Char) : Prop where
  ne_nil : word ≠ []
  valid : ∀ c ∈ word, isWordChar c = true

theorem IsWord.isBlank {word : List Char} (h : IsWord word) : ∀ c ∈ word, isBlank c = false :=
  fun c hc => isBlank_of_isWordChar (h.valid c hc)

theorem isWord_of_decide {word : List Char} (h : (!word.isEmpty && word.all isWordChar) = true) :
    IsWord word := by
  simp only [Bool.and_eq_true, Bool.not_eq_true', List.isEmpty_eq_false_iff, List.all_eq_true] at h
  exact ⟨h.1, h.2⟩

theorem isWordChar_of_isAlphanum {c : Char} (h : c.isAlphanum = true) : isWordChar c = true := by
  rw [isWordChar, h, Bool.true_or]

theorem isWordChar_of_isDigit {c : Char} (h : c.isDigit = true) : isWordChar c = true :=
  isWordChar_of_isAlphanum (by rw [Char.isAlphanum, h, Bool.or_true])

theorem Numeral.isWord (n : Numeral) : IsWord n.digits :=
  ⟨n.ne_nil, fun c hc => isWordChar_of_isDigit (n.valid c hc)⟩

/-- A character that is no digit is not in a numeral. -/
theorem Numeral.not_mem (n : Numeral) {x : Char} (hx : x.isDigit = false) : x ∉ n.digits := by
  intro hm
  rw [n.valid x hm] at hx
  cases hx

/-- The characters of names. -/
def isNameChar (c : Char) : Bool := c.isAlphanum || c == '_' || c == '$' || c == '%'

theorem Identifier.valid (name : Identifier) : ∀ c ∈ name.chars, isNameChar c = true := by
  refine List.forall_mem_cons.2 ⟨?_, fun c hc => ?_⟩
  · have h := name.first_valid
    simp only [isNameChar, Char.isAlphanum, Bool.or_eq_true] at h ⊢
    obtain ((h | h) | h) | h := h <;> simp [h]
  · have h := name.rest_valid c hc
    simp only [isNameChar, Bool.or_eq_true] at h ⊢
    exact Or.inl h

/-- A character that no name has is not in a name. -/
theorem Identifier.not_mem (name : Identifier) {x : Char} (hx : isNameChar x = false) :
    x ∉ name.chars := by
  intro hm
  rw [name.valid x hm] at hx
  cases hx

theorem Identifier.isWord (name : Identifier) : IsWord name.chars := by
  refine ⟨List.cons_ne_nil _ _, fun c hc => ?_⟩
  have h := name.valid c hc
  simp only [isNameChar, Bool.or_eq_true, beq_iff_eq] at h
  obtain ((h | h) | h) | h := h
  · exact isWordChar_of_isAlphanum h
  all_goals
    rw [h]
    decide

theorem Header.isWord_target (h : Header) : IsWord h.target := by
  refine ⟨h.target_ne_nil, fun c hc => ?_⟩
  have hc := h.target_valid c hc
  simp only [Bool.or_eq_true, beq_iff_eq] at hc
  obtain hc | hc := hc
  · exact isWordChar_of_isAlphanum hc
  · rw [hc]
    decide

theorem Header.isWord_front (h : Header) : ∀ word ∈ h.front, IsWord word := by
  have version : IsWord (h.major.digits ++ '.' :: h.minor.digits) := by
    refine ⟨by simp, fun c hc => ?_⟩
    simp only [List.mem_append, List.mem_cons] at hc
    obtain hc | rfl | hc := hc
    · exact h.major.isWord.valid c hc
    · decide
    · exact h.minor.isWord.valid c hc
  unfold Header.front
  refine List.forall_mem_append.2 ⟨List.forall_mem_cons.2 ⟨isWord_of_decide (by decide),
    List.forall_mem_cons.2 ⟨version, List.forall_mem_singleton.2 (isWord_of_decide (by decide))⟩⟩, ?_⟩
  cases h.addressSize with
  | none => exact fun _ hw => absurd hw List.not_mem_nil
  | some n =>
    exact List.forall_mem_cons.2 ⟨h.isWord_target,
      List.forall_mem_singleton.2 (isWord_of_decide (by decide))⟩

theorem Header.isWord_last (h : Header) : IsWord h.last := by
  unfold Header.last
  cases h.addressSize with
  | none => exact h.isWord_target
  | some n => exact n.isWord

theorem forall_visibleWords {P : List Char → Prop} (hp : P ".visible".toList) (visible : Bool) :
    ∀ word ∈ visibleWords visible, P word := by
  cases visible with
  | false => exact fun _ hw => absurd hw List.not_mem_nil
  | true => exact List.forall_mem_singleton.2 hp

theorem External.isWord_front (e : External) : ∀ word ∈ e.front, IsWord word := by
  refine List.forall_mem_cons.2 ⟨isWord_of_decide (by decide), List.forall_mem_singleton.2 ?_⟩
  cases e.isFunction <;> exact isWord_of_decide (by decide)

theorem Kernel.isWord_front (k : Kernel) : ∀ word ∈ k.front, IsWord word :=
  List.forall_mem_append.2 ⟨forall_visibleWords (isWord_of_decide (by decide)) _,
    List.forall_mem_singleton.2 (isWord_of_decide (by decide))⟩

/-! ### Rows of words -/

/-- The text has nothing but words of a declaration and blanks. -/
def Plain (cs : List Char) : Prop := ∀ c ∈ cs, isBlank c = true ∨ isWordChar c = true

theorem IsGap.plain {gap : List Char} (h : IsGap gap) : Plain gap := fun c hc => Or.inl (h c hc)

theorem IsWord.plain {word : List Char} (h : IsWord word) : Plain word :=
  fun c hc => Or.inr (h.valid c hc)

theorem Plain.append {cs ds : List Char} (hc : Plain cs) (hd : Plain ds) : Plain (cs ++ ds) :=
  List.forall_mem_append.2 ⟨hc, hd⟩

/-- A character that is no blank and of no word is not there. -/
theorem Plain.not_mem {cs : List Char} (h : Plain cs) {x : Char}
    (hx : (!isBlank x && !isWordChar x) = true) : x ∉ cs := by
  intro hm
  simp only [Bool.and_eq_true, Bool.not_eq_true'] at hx
  obtain hb | hw := h x hm
  · rw [hx.1] at hb
    cases hb
  · rw [hx.2] at hw
    cases hw

theorem Plain.isBrace {cs : List Char} (h : Plain cs) : ∀ c ∈ cs, isBrace c = false := by
  intro c hc
  have opening : c ≠ '\x7b' := fun heq => h.not_mem (by decide) (heq ▸ hc)
  have closing : c ≠ '\x7d' := fun heq => h.not_mem (by decide) (heq ▸ hc)
  simp [GpuDriver.Ptx.isBrace, opening, closing]

/-- The braces of a text without any are balanced. -/
theorem balanced_of_no_brace {cs : List Char} (h : ∀ c ∈ cs, isBrace c = false) :
    balanced cs = true := by
  have hbrace : ∀ c ∈ cs, c ≠ '\x7b' ∧ c ≠ '\x7d' := fun c hc => by
    simpa [isBrace] using h c hc
  rw [balanced, braceDepth_of_no_brace hbrace]
  rfl

theorem Plain.balanced {cs : List Char} (h : Plain cs) : balanced cs = true :=
  balanced_of_no_brace h.isBrace

/-- A declaration with neither an initial value nor braces is read as it is. -/
theorem Plain.declarationIn_eq {cs : List Char} (h : Plain cs) : declarationIn cs = cs := by
  rw [declarationIn_of_no_value (h.not_mem (by decide)), lastPiece_eq_self h.isBrace]

section Row

variable {ws : List (List Char)} {cs : List Char}

theorem Row.plain (h : Row ws cs) (hw : ∀ word ∈ ws, IsWord word) : Plain cs := by
  induction h with
  | nil => exact fun _ hc => absurd hc List.not_mem_nil
  | cons hs h ih =>
    obtain ⟨hword, hrest⟩ := List.forall_mem_cons.1 hw
    exact (hword.plain.append hs.2.plain).append (ih hrest)

theorem words_gap_append {gap : List Char} (h : IsGap gap) (ds : List Char) :
    words (gap ++ ds) = words ds := by
  induction gap with
  | nil => rfl
  | cons b gap ih =>
    obtain ⟨hb, hgap⟩ := List.forall_mem_cons.1 h
    have hcut : words ([] ++ b :: (gap ++ ds)) = words [] ++ words (gap ++ ds) :=
      words_append_cons hb [] _
    exact hcut.trans (ih hgap)

theorem words_space_append {cs space : List Char} (h : IsSpace space) (ds : List Char) :
    words (cs ++ space ++ ds) = words cs ++ words ds := by
  obtain ⟨hne, hgap⟩ := h
  obtain ⟨b, gap, rfl⟩ := List.exists_cons_of_ne_nil hne
  obtain ⟨hb, hgap⟩ := List.forall_mem_cons.1 hgap
  rw [List.append_assoc, List.cons_append, words_append_cons hb, words_gap_append hgap]

theorem words_append_gap {gap : List Char} (h : IsGap gap) (cs : List Char) :
    words (cs ++ gap) = words cs := by
  cases gap with
  | nil => rw [List.append_nil]
  | cons b gap =>
    have hwords : words (cs ++ b :: gap ++ []) = words cs ++ words [] :=
      words_space_append ⟨List.cons_ne_nil b gap, h⟩ []
    rw [List.append_nil] at hwords
    exact hwords.trans (List.append_nil _)

/-- **A row has the words** that it is a row of. -/
theorem Row.words_append (h : Row ws cs) (hw : ∀ word ∈ ws, IsWord word) (ds : List Char) :
    words (cs ++ ds) = ws ++ words ds := by
  induction h with
  | nil => rfl
  | @cons word space cs ws hs h ih =>
    obtain ⟨hword, hrest⟩ := List.forall_mem_cons.1 hw
    rw [List.append_assoc, words_space_append hs, words_eq_singleton hword.ne_nil hword.isBlank,
      ih hrest]
    rfl

end Row

end GpuDriver.Ptx
