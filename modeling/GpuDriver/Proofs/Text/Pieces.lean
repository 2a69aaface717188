import GpuDriver.Text.Pieces
import GpuDriver.Text.Braces

/-!
# Cutting and counting in a text that continues another

How the pieces, the words and the open braces of two texts, one after the other, come from those of the
two. A text is its last piece, or ends in a member at which it is cut and that piece
(`exists_append_lastPiece`); and in the same way it begins with its first piece.
-/

namespace GpuDriver.Text

variable {α : Type} {p : α → Bool}

/-! ### Pieces -/

/-- Cutting is what core calls splitting. -/
theorem pieces_eq_splitOnP (p : α → Bool) (cs : List α) : pieces p cs = cs.splitOnP p := by
  fun_induction pieces p cs with
  | case1 => simp
  | case2 c rest hc ih => simp [List.splitOnP_cons_eq_if_modifyHead, hc, ih]
  | case3 c rest hc hn ih => exact absurd hn (pieces_ne_nil p rest)
  | case4 c rest hc w ws hw ih =>
    simp [List.splitOnP_cons_eq_if_modifyHead, hc, ← ih, hw]

theorem pieces_append_cons {c : α} (hc : p c = true) (cs ds : List α) :
    pieces p (cs ++ c :: ds) = pieces p cs ++ pieces p ds := by
  simp only [pieces_eq_splitOnP, List.splitOnP_append_cons cs ds hc]

theorem pieces_eq_singleton {cs : List α} (h : ∀ c ∈ cs, p c = false) : pieces p cs = [cs] := by
  rw [pieces_eq_splitOnP, List.splitOnP_eq_singleton h]

theorem eq_false_of_mem_firstPiece {c : α} {cs : List α} (h : c ∈ firstPiece p cs) : p c = false := by
  simpa using List.all_eq_true.1 List.all_takeWhile c h

theorem eq_false_of_mem_lastPiece {c : α} {cs : List α} (h : c ∈ lastPiece p cs) : p c = false :=
  eq_false_of_mem_firstPiece (List.mem_reverse.1 h)

/-- A text is its first piece, or begins with that and a member at which it is cut. -/
theorem exists_firstPiece_append (p : α → Bool) (cs : List α) :
    cs = firstPiece p cs ∨ ∃ c rest, p c = true ∧ cs = firstPiece p cs ++ c :: rest := by
  have hsplit : firstPiece p cs ++ cs.dropWhile (fun c => !p c) = cs := List.takeWhile_append_dropWhile
  cases hrest : cs.dropWhile fun c => !p c with
  | nil =>
    rw [hrest, List.append_nil] at hsplit
    exact Or.inl hsplit.symm
  | cons c rest =>
    have hc := List.head_dropWhile_not (fun c => !p c) (l := cs) (by simp [hrest])
    simp only [hrest, List.head_cons, Bool.not_eq_false'] at hc
    rw [hrest] at hsplit
    exact Or.inr ⟨c, rest, hc, hsplit.symm⟩

/-- A text is its last piece, or ends in a member at which it is cut and that piece. -/
theorem exists_append_lastPiece (p : α → Bool) (cs : List α) :
    cs = lastPiece p cs ∨ ∃ front c, p c = true ∧ cs = front ++ c :: lastPiece p cs := by
  have hlast : (firstPiece p cs.reverse).reverse = lastPiece p cs := rfl
  obtain h | ⟨c, rest, hc, h⟩ := exists_firstPiece_append p cs.reverse
  · exact Or.inl (by rw [← hlast, ← h, List.reverse_reverse])
  · refine Or.inr ⟨rest.reverse, c, hc, ?_⟩
    rw [← hlast]
    simpa using congrArg List.reverse h

theorem firstPiece_append_of_forall {cs : List α} (h : ∀ c ∈ cs, p c = false) (ds : List α) :
    firstPiece p (cs ++ ds) = cs ++ firstPiece p ds :=
  List.takeWhile_append_of_pos fun c hc => by simp [h c hc]

theorem firstPiece_eq_self {cs : List α} (h : ∀ c ∈ cs, p c = false) : firstPiece p cs = cs := by
  simpa [firstPiece] using firstPiece_append_of_forall h []

theorem firstPiece_append_of_exists {cs : List α} (h : ∃ c ∈ cs, p c = true) (ds : List α) :
    firstPiece p (cs ++ ds) = firstPiece p cs := by
  obtain ⟨c, hc, hpc⟩ := h
  obtain heq | ⟨d, rest, hd, heq⟩ := exists_firstPiece_append p cs
  · rw [heq] at hc
    simp [eq_false_of_mem_firstPiece hc] at hpc
  · have hfirst : ∀ c ∈ firstPiece p cs, p c = false := fun c => eq_false_of_mem_firstPiece
    rw [heq, List.append_assoc, firstPiece_append_of_forall hfirst, List.cons_append,
      firstPiece_append_of_forall hfirst]
    simp [firstPiece, hd]

theorem lastPiece_append_of_forall {ds : List α} (h : ∀ d ∈ ds, p d = false) (cs : List α) :
    lastPiece p (cs ++ ds) = lastPiece p cs ++ ds := by
  have hrev : ∀ d ∈ ds.reverse, p d = false := by simpa using h
  have hfirst := firstPiece_append_of_forall hrev cs.reverse
  have hlast : ∀ l : List α, lastPiece p l = (firstPiece p l.reverse).reverse := fun _ => rfl
  rw [hlast, List.reverse_append, hfirst, List.reverse_append, List.reverse_reverse, ← hlast]

theorem lastPiece_eq_self {cs : List α} (h : ∀ c ∈ cs, p c = false) : lastPiece p cs = cs := by
  simpa [lastPiece] using lastPiece_append_of_forall h []

theorem lastPiece_append_of_exists {ds : List α} (h : ∃ d ∈ ds, p d = true) (cs : List α) :
    lastPiece p (cs ++ ds) = lastPiece p ds := by
  have hrev : ∃ d ∈ ds.reverse, p d = true := by simpa using h
  have hfirst := firstPiece_append_of_exists hrev cs.reverse
  have hlast : ∀ l : List α, lastPiece p l = (firstPiece p l.reverse).reverse := fun _ => rfl
  rw [hlast, List.reverse_append, hfirst, ← hlast]

/-- A text without a character is not cut at it. -/
theorem forall_beq_eq_false {cs : List Char} {x : Char} (h : x ∉ cs) : ∀ c ∈ cs, (c == x) = false :=
  fun _ hc => beq_eq_false_iff_ne.2 fun heq => h (heq ▸ hc)

theorem lastPiece_append_cons {c : α} (hc : p c = true) (cs ds : List α) :
    lastPiece p (cs ++ c :: ds) = lastPiece p ds := by
  by_cases hds : ∃ d ∈ ds, p d = true
  · rw [← List.singleton_append, ← List.append_assoc, lastPiece_append_of_exists hds]
  · have hds : ∀ d ∈ ds, p d = false := by simpa using hds
    have hnil : lastPiece p [c] = [] := by simp [lastPiece, hc]
    rw [← List.singleton_append, ← List.append_assoc, lastPiece_append_of_forall hds,
      lastPiece_append_of_exists ⟨c, List.mem_singleton_self c, hc⟩, hnil, List.nil_append,
      lastPiece_eq_self hds]

/-! ### Words -/

/-- A character that is not blank is another one than a blank. -/
theorem ne_of_isBlank {b c : Char} (hb : isBlank b = true) (hc : isBlank c = false) : b ≠ c := by
  rintro rfl
  rw [hb] at hc
  cases hc

theorem words_append_cons {c : Char} (hc : isBlank c = true) (cs ds : List Char) :
    words (cs ++ c :: ds) = words cs ++ words ds := by
  simp [words, pieces_append_cons hc]

theorem words_append_newline (cs ds : List Char) :
    words (cs ++ '\n' :: ds) = words cs ++ words ds :=
  words_append_cons (by decide) cs ds

theorem words_eq_singleton {cs : List Char} (hcs : cs ≠ []) (h : ∀ c ∈ cs, isBlank c = false) :
    words cs = [cs] := by
  rw [words, pieces_eq_singleton h]
  simpa using hcs

theorem words_eq_nil {cs : List Char} (h : ∀ c ∈ cs, isBlank c = true) : words cs = [] := by
  induction cs with
  | nil => rfl
  | cons c rest ih =>
    obtain ⟨hc, hrest⟩ := List.forall_mem_cons.1 h
    have hcut : words (c :: rest) = words [] ++ words rest := words_append_cons hc [] rest
    rw [hcut, ih hrest]
    rfl

theorem mem_of_mem_pieces {cs w : List α} (hw : w ∈ pieces p cs) {c : α} (hc : c ∈ w) : c ∈ cs := by
  fun_induction pieces p cs generalizing w with
  | case1 => simp_all
  | case2 a rest ha ih =>
    obtain rfl | hw := List.mem_cons.1 hw
    · cases hc
    · exact List.mem_cons_of_mem _ (ih hw hc)
  | case3 a rest ha hn => exact absurd hn (pieces_ne_nil p rest)
  | case4 a rest ha v vs hv ih =>
    obtain rfl | hw := List.mem_cons.1 hw
    · obtain rfl | hc := List.mem_cons.1 hc
      · exact List.mem_cons_self
      · exact List.mem_cons_of_mem _ (ih (hv ▸ List.mem_cons_self) hc)
    · exact List.mem_cons_of_mem _ (ih (hv ▸ List.mem_cons_of_mem _ hw) hc)

/-- No piece has a member at which the list is cut. -/
theorem eq_false_of_mem_pieces {cs w : List α} (hw : w ∈ pieces p cs) {c : α} (hc : c ∈ w) :
    p c = false := by
  fun_induction pieces p cs generalizing w with
  | case1 => simp_all
  | case2 a rest ha ih =>
    obtain rfl | hw := List.mem_cons.1 hw
    · cases hc
    · exact ih hw hc
  | case3 a rest ha hn => exact absurd hn (pieces_ne_nil p rest)
  | case4 a rest ha v vs hv ih =>
    obtain rfl | hw := List.mem_cons.1 hw
    · obtain rfl | hc := List.mem_cons.1 hc
      · exact eq_false_of_ne_true ha
      · exact ih (hv ▸ List.mem_cons_self) hc
    · exact ih (hv ▸ List.mem_cons_of_mem _ hw) hc

/-- Words are made of characters of the text. -/
theorem mem_of_mem_words {cs word : List Char} (hw : word ∈ words cs) {c : Char} (hc : c ∈ word) :
    c ∈ cs :=
  mem_of_mem_pieces (List.mem_filter.1 hw).1 hc

/-- A text of one word or none: the words of a text without blanks. -/
theorem words_of_forall {cs : List Char} (h : ∀ c ∈ cs, isBlank c = false) :
    words cs = if cs = [] then [] else [cs] := by
  split
  · rename_i hnil
    rw [hnil]
    rfl
  · exact words_eq_singleton ‹_› h

/-- What stands before the last blank, and the word behind it. -/
theorem exists_words_append (cs : List Char) :
    ∃ ws, ∀ ds, words (cs ++ ds) = ws ++ words (lastPiece isBlank cs ++ ds) := by
  obtain h | ⟨front, b, hb, h⟩ := exists_append_lastPiece isBlank cs
  · exact ⟨[], fun ds => by rw [← h, List.nil_append]⟩
  · refine ⟨words front, fun ds => ?_⟩
    rw [← words_append_cons hb, ← List.cons_append, ← List.append_assoc, ← h]

/-- The word before the first blank, and what stands behind it. -/
theorem exists_words_append_head (ds : List Char) :
    ∃ ws, ∀ cs, words (cs ++ ds) = words (cs ++ firstPiece isBlank ds) ++ ws := by
  obtain h | ⟨b, rest, hb, h⟩ := exists_firstPiece_append isBlank ds
  · exact ⟨[], fun cs => by rw [← h, List.append_nil]⟩
  · refine ⟨words rest, fun cs => ?_⟩
    rw [← words_append_cons hb, List.append_assoc, ← h]

/-- A text that begins with a word: what goes on after it without a blank belongs to the word. -/
theorem head?_words_append {a : List Char} (ha : a ≠ []) (h : ∀ c ∈ a, isBlank c = false)
    (ds : List Char) : (words (a ++ ds)).head? = some (a ++ firstPiece isBlank ds) := by
  obtain ⟨ws, hws⟩ := exists_words_append_head ds
  have hword : ∀ c ∈ a ++ firstPiece isBlank ds, isBlank c = false := fun c hc =>
    (List.mem_append.1 hc).elim (h c) eq_false_of_mem_firstPiece
  rw [hws, words_eq_singleton (by simp [ha]) hword]
  rfl

/-- A text that ends with a character that is not blank: its last word ends with that. -/
theorem exists_words_concat {x : Char} (hx : isBlank x = false) (cs : List Char) :
    ∃ ws word, words (cs ++ [x]) = ws ++ [word ++ [x]] := by
  obtain ⟨ws, hws⟩ := exists_words_append cs
  have hword : ∀ c ∈ lastPiece isBlank cs ++ [x], isBlank c = false := by
    intro c hc
    obtain hc | hc := List.mem_append.1 hc
    · exact eq_false_of_mem_lastPiece hc
    · rwa [List.mem_singleton.1 hc]
  exact ⟨ws, lastPiece isBlank cs, by rw [hws, words_eq_singleton (by simp) hword]⟩

/-- Two texts with a character between them that is not blank: a word without that character is one of
either text, and of the first also with the character behind it. -/
theorem mem_words_append_cons {x : Char} {cs ds word : List Char} (hx : isBlank x = false)
    (hword : x ∉ word) (h : word ∈ words (cs ++ x :: ds)) :
    (word ∈ words cs ∧ word ∈ words (cs ++ [x])) ∨ word ∈ words ds := by
  obtain ⟨ws, hws⟩ := exists_words_append cs
  obtain ⟨vs, hvs⟩ := exists_words_append_head ds
  have hjoin : ∀ c ∈ lastPiece isBlank cs ++ x :: firstPiece isBlank ds, isBlank c = false := by
    intro c hc
    obtain hc | hc := List.mem_append.1 hc
    · exact eq_false_of_mem_lastPiece hc
    · obtain rfl | hc := List.mem_cons.1 hc
      · exact hx
      · exact eq_false_of_mem_firstPiece hc
  have hcs := hws []
  have hds := hvs []
  have hboth := hvs (lastPiece isBlank cs ++ [x])
  rw [List.append_nil] at hcs
  rw [List.nil_append, List.nil_append] at hds
  rw [List.append_assoc, List.append_assoc, List.singleton_append, List.singleton_append] at hboth
  rw [hws, hboth, words_eq_singleton (by simp) hjoin] at h
  simp only [List.mem_append, List.mem_singleton] at h
  obtain h | rfl | h := h
  · exact Or.inl ⟨hcs ▸ List.mem_append_left _ h, hws [x] ▸ List.mem_append_left _ h⟩
  · exact absurd (by simp) hword
  · exact Or.inr (hds ▸ List.mem_append_right _ h)

/-- A text that goes on: its words stay, except perhaps the last. -/
theorem mem_words_append {cs word : List Char} (h : word ∈ words cs) (ds : List Char) :
    word ∈ words (cs ++ ds) ∨ (words cs).getLast? = some word := by
  obtain ⟨ws, hws⟩ := exists_words_append cs
  have hcs := hws []
  have hlast : ∀ c ∈ lastPiece isBlank cs, isBlank c = false := fun c => eq_false_of_mem_lastPiece
  rw [List.append_nil, List.append_nil, words_of_forall hlast] at hcs
  rw [hcs] at h
  obtain h | h := List.mem_append.1 h
  · exact Or.inl (hws ds ▸ List.mem_append_left _ h)
  · right
    rw [hcs]
    split at h
    · cases h
    · rw [if_neg ‹_›, List.getLast?_concat, List.mem_singleton.1 h]

/-- A line feed at the end adds no word. -/
theorem words_newline (cs : List Char) : words (cs ++ ['\n']) = words cs := by
  rw [words_append_newline]
  exact List.append_nil _

/-! ### Braces -/

theorem braceDepth_append (depth : Nat) (cs ds : List Char) :
    braceDepth depth (cs ++ ds) = (braceDepth depth cs).bind fun n => braceDepth n ds := by
  fun_induction braceDepth depth cs with
  | case1 => rfl
  | case2 depth rest ih => simp [braceDepth, ih]
  | case3 rest h => simp [braceDepth]
  | case4 depth rest h h' ih => simp [braceDepth, h, ih]
  | case5 depth c rest h h' ih => simp [braceDepth, h, h', ih]

/-- Two balanced texts are balanced one after the other. -/
theorem balanced_append {cs ds : List Char} (hc : balanced cs = true) :
    balanced (cs ++ ds) = balanced ds := by
  have hc : braceDepth 0 cs = some 0 := by simpa [balanced] using hc
  simp [balanced, braceDepth_append, hc]

theorem braceDepth_of_no_brace {cs : List Char} (h : ∀ c ∈ cs, c ≠ '\x7b' ∧ c ≠ '\x7d')
    (depth : Nat) : braceDepth depth cs = some depth := by
  induction cs with
  | nil => rfl
  | cons c rest ih =>
    obtain ⟨⟨ho, hc⟩, hrest⟩ := List.forall_mem_cons.1 h
    rw [braceDepth, if_neg ho, if_neg hc, ih hrest]

/-- A text without braces at the end makes no difference to the balance. -/
theorem balanced_append_of_no_brace {ds : List Char} (h : ∀ c ∈ ds, c ≠ '\x7b' ∧ c ≠ '\x7d')
    (cs : List Char) : balanced (cs ++ ds) = balanced cs := by
  simp only [balanced, braceDepth_append, braceDepth_of_no_brace h]
  cases braceDepth 0 cs <;> rfl

end GpuDriver.Text
