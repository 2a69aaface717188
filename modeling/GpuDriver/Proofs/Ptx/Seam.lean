import GpuDriver.Proofs.Ptx.Comment
import GpuDriver.Proofs.Text.Pieces
import GpuDriver.Ptx.Symbols

/-!
# Symbols on both sides of a seam

Two texts stand one after the other with a line feed between them. What the whole defines comes from
what the two define and from what crosses the seam: the mode of reading, whether a declaration of
something external goes on, whether a kernel still awaits its name (`entriesOf_append`), and the
declaration that the last semicolon of the first text and the first one of the second enclose
(`globalsOf_append_iff`).
-/

namespace GpuDriver.Ptx

open Text

/-! ### Texts without comments -/

/-- What is left of a text without its comments. -/
def bodyOf (text : String) : List Char := withoutComments text.toList

theorem bodyOf_eq (text : String) : bodyOf text = codeOf .code text.toList :=
  withoutComments_eq text.toList

theorem bodyOf_eq_self {text : String} (plain : '/' ∉ text.toList) : bodyOf text = text.toList := by
  rw [bodyOf_eq, codeOf_code_eq_self plain]

theorem isModule_eq (text : String) :
    isModule text = ((words (bodyOf text)).contains ".version".toList &&
      (words (bodyOf text)).contains ".target".toList && balanced (bodyOf text)) := rfl

/-- What a text without comments defines. -/
def symbolsIn (body : List Char) : Symbols :=
  { entries := entriesOf false (words body), globals := globalsOf body }

theorem symbols_eq (text : String) : symbols text = symbolsIn (bodyOf text) := rfl

/-- What is left of two texts with a line feed between them if the comments of the first are closed. -/
theorem bodyOf_append {t : String} (closed : modeAfter .code t.toList ≠ .block)
    (u : String) : bodyOf (t ++ "\n" ++ u) = bodyOf t ++ '\n' :: bodyOf u := by
  have htext : (t ++ "\n" ++ u).toList = t.toList ++ '\n' :: u.toList := by simp
  simp only [bodyOf_eq, htext, codeOf_append, codeOf_newline closed]

/-! ### Modules -/

/-- **Two modules are a module** if the comments of the first are closed. -/
theorem isModule_append {t u : String} (ht : isModule t = true) (hu : isModule u = true)
    (closed : modeAfter .code t.toList ≠ .block) : isModule (t ++ "\n" ++ u) = true := by
  simp only [isModule_eq, Bool.and_eq_true, List.contains_iff_mem] at ht hu ⊢
  simp only [bodyOf_append closed, words_append_newline, List.mem_append]
  obtain ⟨⟨version, target⟩, depth⟩ := ht
  refine ⟨⟨Or.inl version, Or.inl target⟩, ?_⟩
  rw [balanced_append depth]
  exact hu.2

/-! ### Kernels -/

/-- Whether a declaration of something external goes on after a word. -/
def externalNext (external : Bool) (word : List Char) : Bool :=
  if word = ".extern".toList then true
  else if word = ".entry".toList || endsDeclaration word then false
  else external

/-- Whether a declaration of something external goes on after a row of words. -/
def externalAfter (external : Bool) (ws : List (List Char)) : Bool := ws.foldl externalNext external

/-- A row of words ends just before the name of a kernel. -/
def awaitsName (external : Bool) (ws : List (List Char)) : Bool :=
  decide (ws.getLast? = some ".entry".toList) && !externalAfter external ws.dropLast

theorem awaitsName_singleton (external : Bool) (word : List Char) :
    awaitsName external [word] = (decide (word = ".entry".toList) && !external) := by
  simp only [awaitsName, List.getLast?_singleton, List.dropLast_singleton, externalAfter,
    List.foldl_nil, Option.some.injEq]

theorem entriesOf_cons (external : Bool) (word : List Char) (rest : List (List Char)) :
    entriesOf external (word :: rest) =
      (if awaitsName external [word] then (rest.head?.bind entryName?).toList else []) ++
        entriesOf (externalNext external word) rest := by
  rw [entriesOf, externalNext, awaitsName_singleton]
  by_cases hx : word = ".extern".toList
  · rw [if_pos hx, if_pos hx, decide_eq_false (by rw [hx]; decide)]
    rfl
  by_cases hn : word = ".entry".toList
  · rw [if_neg hx, if_neg hx, if_pos hn, decide_eq_true hn]
    cases external <;> rfl
  · rw [if_neg hx, if_neg hx, if_neg hn, decide_eq_false hn]
    cases endsDeclaration word <;> rfl

theorem awaitsName_cons {ws : List (List Char)} (hws : ws ≠ []) (external : Bool)
    (word : List Char) :
    awaitsName external (word :: ws) = awaitsName (externalNext external word) ws := by
  obtain ⟨v, vs, rfl⟩ := List.exists_cons_of_ne_nil hws
  simp [awaitsName, externalAfter]

/-- **The kernels of a row of words that goes on**: the second part begins with a declaration of
something external if the first ends with one, and with a name if the first ends just before one. -/
theorem entriesOf_append (external : Bool) (ws vs : List (List Char)) :
    entriesOf external (ws ++ vs) = entriesOf external ws ++
      ((if awaitsName external ws then (vs.head?.bind entryName?).toList else []) ++
        entriesOf (externalAfter external ws) vs) := by
  induction ws generalizing external with
  | nil => simp [awaitsName, externalAfter, entriesOf]
  | cons word rest ih =>
    rw [List.cons_append, entriesOf_cons, entriesOf_cons external word rest]
    by_cases hrest : rest = []
    · subst hrest
      simp [entriesOf, externalAfter]
    · have hhead : (rest ++ vs).head? = rest.head? := by
        obtain ⟨v, vs', rfl⟩ := List.exists_cons_of_ne_nil hrest
        rfl
      rw [ih, hhead, awaitsName_cons hrest, List.append_assoc]
      rfl

/-! ### Variables -/

/-- What follows the last semicolon. -/
def tailOf (body : List Char) : List Char := lastPiece (· == ';') body

/-- What precedes the first semicolon. -/
def headOf (body : List Char) : List Char := firstPiece (· == ';') body

/-- The variables that one piece between semicolons declares: one or none. -/
def globalsIn (chunk : List Char) : List Global := (globalOf? (declarationIn chunk)).toList

theorem globalsOf_of_forall {chunk : List Char} (h : ∀ c ∈ chunk, (c == ';') = false) :
    globalsOf chunk = globalsIn chunk := by
  rw [globalsOf, pieces_eq_singleton h, globalsIn, List.filterMap_cons, List.filterMap_nil]
  cases globalOf? (declarationIn chunk) <;> rfl

theorem globalsOf_append_cons (cs ds : List Char) :
    globalsOf (cs ++ ';' :: ds) = globalsOf cs ++ globalsOf ds := by
  rw [globalsOf, pieces_append_cons (by decide), List.filterMap_append]
  rfl

/-- Of a text that goes on, only what follows its last semicolon counts for what comes. -/
theorem exists_globalsOf_append_tail (cs : List Char) :
    ∃ before, ∀ ds, globalsOf (cs ++ ds) = before ++ globalsOf (tailOf cs ++ ds) := by
  obtain h | ⟨front, c, hc, h⟩ := exists_append_lastPiece (· == ';') cs
  · refine ⟨[], fun ds => ?_⟩
    rw [tailOf, ← h]
    rfl
  · obtain rfl : c = ';' := by simpa using hc
    refine ⟨globalsOf front, fun ds => ?_⟩
    rw [tailOf, ← globalsOf_append_cons, ← List.cons_append, ← List.append_assoc, ← h]

/-- Of a text that continues another, only what precedes its first semicolon counts for what was. -/
theorem exists_globalsOf_append_head (ds : List Char) :
    ∃ behind, ∀ cs, (∀ c ∈ cs, (c == ';') = false) →
      globalsOf (cs ++ ds) = globalsIn (cs ++ headOf ds) ++ behind := by
  have hhead : ∀ c ∈ headOf ds, (c == ';') = false := fun c => eq_false_of_mem_firstPiece
  have hjoin : ∀ cs : List Char, (∀ c ∈ cs, (c == ';') = false) →
      globalsOf (cs ++ headOf ds) = globalsIn (cs ++ headOf ds) := fun cs hcs =>
    globalsOf_of_forall fun c hc => (List.mem_append.1 hc).elim (hcs c) (hhead c)
  obtain h | ⟨c, rest, hc, h⟩ := exists_firstPiece_append (· == ';') ds
  · refine ⟨[], fun cs hcs => ?_⟩
    rw [List.append_nil, ← hjoin cs hcs, headOf, ← h]
  · obtain rfl : c = ';' := by simpa using hc
    refine ⟨globalsOf rest, fun cs hcs => ?_⟩
    rw [← hjoin cs hcs, ← globalsOf_append_cons, List.append_assoc, headOf, ← h]

/-- **The variables of two texts with a blank between them** are those of the two exactly if those of
the piece across the seam are. -/
theorem globalsOf_append_iff {b : Char} (hb : isBlank b = true) (cs ds : List Char) :
    globalsOf (cs ++ b :: ds) = globalsOf cs ++ globalsOf ds ↔
      globalsIn (tailOf cs ++ b :: headOf ds) = globalsIn (tailOf cs) ++ globalsIn (headOf ds) := by
  have htail : ∀ c ∈ tailOf cs, (c == ';') = false := fun c => eq_false_of_mem_lastPiece
  obtain ⟨before, hbefore⟩ := exists_globalsOf_append_tail cs
  obtain ⟨behind, hbehind⟩ := exists_globalsOf_append_head ds
  have hcs : globalsOf cs = before ++ globalsIn (tailOf cs) := by
    simpa [globalsOf_of_forall htail] using hbefore []
  have hds : globalsOf ds = globalsIn (headOf ds) ++ behind := by simpa using hbehind []
  have hseam : globalsOf (tailOf cs ++ b :: ds) =
      globalsIn (tailOf cs ++ b :: headOf ds) ++ behind := by
    have hne : b ≠ ';' := ne_of_isBlank hb (by decide)
    have hline : ∀ c ∈ tailOf cs ++ [b], (c == ';') = false := by
      simpa [or_imp, forall_and, hne] using htail
    simpa using hbehind (tailOf cs ++ [b]) hline
  rw [hbefore, hseam, hcs, hds]
  simp only [List.append_assoc, List.append_cancel_left_eq]
  rw [← List.append_assoc, List.append_cancel_right_eq]

end GpuDriver.Ptx
