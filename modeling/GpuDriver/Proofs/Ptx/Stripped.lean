import GpuDriver.Proofs.Ptx.Seam

/-!
# Texts whose comments are taken out

`Strips text body` tells, comment by comment, what a text is without them: the first line feed ends a
line comment and stays, the first `*/` behind the `/*` closes a block comment, for which a blank stands,
and a comment that does not end takes all the rest. There is one such body for each text, and it is
what the lexer `codeOf` and `withoutComments` make of it (`strips_iff`).

Taking a comment out never brings the two characters of a new one together: where a `/` stays, what
comes after it in the text is no comment either (`Strips.head?_eq`). So nothing in the body begins a
comment (`Strips.isBare`), and a text in which nothing does stays as it is (`strips_self`).
-/

namespace GpuDriver.Ptx

/-- The second text is the first one without its comments. -/
inductive Strips : List Char → List Char → Prop
  /-- The text has ended. -/
  | nil : Strips [] []
  /-- A character that does not begin a comment stays. -/
  | char {c : Char} {text body : List Char}
      (opens : c = '/' → text.head? ≠ some '/' ∧ text.head? ≠ some '*') (h : Strips text body) :
      Strips (c :: text) (c :: body)
  /-- Of a comment that ends with its line, the line feed stays. -/
  | line {content text body : List Char} (inside : '\n' ∉ content) (h : Strips text body) :
      Strips ('/' :: '/' :: (content ++ '\n' :: text)) ('\n' :: body)
  /-- Of a comment in the last line nothing stays. -/
  | lastLine {content : List Char} (inside : '\n' ∉ content) : Strips ('/' :: '/' :: content) []
  /-- A blank stands for a comment that is closed. -/
  | block {content text body : List Char} (inside : ¬ ['*', '/'] <:+: content)
      (h : Strips text body) :
      Strips ('/' :: '*' :: (content ++ '*' :: '/' :: text)) (' ' :: body)
  /-- A blank stands for a comment that is never closed. -/
  | unclosed {content : List Char} (inside : ¬ ['*', '/'] <:+: content) :
      Strips ('/' :: '*' :: content) [' ']

/-- Nothing in the text begins a comment. -/
def IsBare (cs : List Char) : Prop := ¬ ['/', '/'] <:+: cs ∧ ¬ ['/', '*'] <:+: cs

/-! ### Two characters in a row -/

theorem pair_infix_cons_iff {a b c : Char} {cs : List Char} :
    [a, b] <:+: c :: cs ↔ a = c ∧ cs.head? = some b ∨ [a, b] <:+: cs := by
  rw [List.infix_cons_iff, List.cons_prefix_cons]
  cases cs with
  | nil => simp
  | cons d rest => simp [eq_comm]

theorem isBare_nil : IsBare [] := ⟨by simp, by simp⟩

/-- A text is bare if its first character does not begin a comment and the rest is bare. -/
theorem isBare_cons_iff {c : Char} {cs : List Char} :
    IsBare (c :: cs) ↔
      (c = '/' → cs.head? ≠ some '/' ∧ cs.head? ≠ some '*') ∧ IsBare cs := by
  simp only [IsBare, pair_infix_cons_iff]
  grind

/-! ### Where comments end -/

theorem dropWhile_newline {content : List Char} (inside : '\n' ∉ content) (text : List Char) :
    (content ++ text).dropWhile (· != '\n') = text.dropWhile (· != '\n') := by
  refine List.dropWhile_append_of_pos fun c hc => ?_
  simpa using fun h : c = '\n' => inside (h ▸ hc)

/-- The first `*/` stands before what follows it; without one nothing follows. -/
theorem afterClose_cases (cs : List Char) :
    (∃ content, cs = content ++ '*' :: '/' :: afterClose cs ∧ ¬ ['*', '/'] <:+: content) ∨
      afterClose cs = [] ∧ ¬ ['*', '/'] <:+: cs := by
  fun_induction afterClose cs with
  | case1 rest => exact Or.inl ⟨[], rfl, by simp⟩
  | case2 c rest h ih =>
    have hclose : ¬ ('*' = c ∧ rest.head? = some '/') := by
      rintro ⟨rfl, hhead⟩
      obtain ⟨more, rfl⟩ := List.head?_eq_some_iff.1 hhead
      exact h more rfl rfl
    obtain ⟨content, hrest, inside⟩ | ⟨hrest, inside⟩ := ih
    · refine Or.inl ⟨c :: content, by rw [List.cons_append, ← hrest], ?_⟩
      rw [pair_infix_cons_iff, not_or]
      refine ⟨fun pair => hclose ⟨pair.1, ?_⟩, inside⟩
      rw [hrest, List.head?_append, pair.2]
      rfl
    · exact Or.inr ⟨hrest, by rw [pair_infix_cons_iff, not_or]; exact ⟨hclose, inside⟩⟩
  | case3 => exact Or.inr ⟨rfl, by simp⟩

/-- Nothing is left of a line comment in the last line. -/
theorem codeOf_lastLine {content : List Char} (inside : '\n' ∉ content) :
    codeOf .line content = [] := by
  have hdrop := dropWhile_newline inside []
  rw [List.append_nil] at hdrop
  rw [codeOf_line, hdrop]
  rfl

/-- Nothing is left of a block comment that is never closed. -/
theorem codeOf_unclosed {content : List Char} (inside : ¬ ['*', '/'] <:+: content) :
    codeOf .block content = [] := by
  obtain ⟨before, hcontent, -⟩ | ⟨hafter, -⟩ := afterClose_cases content
  · exact absurd ⟨before, afterClose content, by rw [List.append_assoc]; exact hcontent.symm⟩ inside
  · rw [codeOf_block, hafter, codeOf]

/-! ### The clauses and the lexer -/

/-- What the clauses say is left of a text is what the lexer leaves. -/
theorem Strips.codeOf_eq {text body : List Char} (h : Strips text body) :
    codeOf .code text = body := by
  induction h with
  | nil => rfl
  | char opens h ih => rw [(codeOf_char opens).1, ih]
  | line inside h ih => rw [codeOf, (codeOf_line_append inside _).1, ih]
  | lastLine inside => rw [codeOf, codeOf_lastLine inside]
  | block inside h ih => rw [codeOf, (codeOf_block_append inside _).1, ih]
  | unclosed inside => rw [codeOf, codeOf_unclosed inside]

/-- A line comment goes as far as the rest is dropped. -/
theorem Strips.of_dropWhile {rest body : List Char}
    (h : Strips (rest.dropWhile (· != '\n')) body) : Strips ('/' :: '/' :: rest) body := by
  by_cases hline : '\n' ∈ rest
  · obtain ⟨content, text, rfl, inside⟩ := List.eq_append_cons_of_mem hline
    rw [dropWhile_newline inside] at h
    cases h with
    | char _ h => exact .line inside h
  · have hdrop := dropWhile_newline hline []
    rw [List.append_nil] at hdrop
    rw [hdrop] at h
    cases h
    exact .lastLine hline

/-- A block comment goes as far as it is closed. -/
theorem Strips.of_afterClose {rest body : List Char} (h : Strips (afterClose rest) body) :
    Strips ('/' :: '*' :: rest) (' ' :: body) := by
  obtain ⟨content, hrest, inside⟩ | ⟨hafter, inside⟩ := afterClose_cases rest
  · rw [hrest]
    exact .block inside h
  · rw [hafter] at h
    cases h
    exact .unclosed inside

/-- **The text without its comments** is what the clauses say. -/
theorem strips_withoutComments (cs : List Char) : Strips cs (withoutComments cs) := by
  fun_induction withoutComments cs with
  | case1 rest ih => exact .of_dropWhile ih
  | case2 rest ih => exact .of_afterClose ih
  | case3 c rest hline hblock ih =>
    refine .char (fun hc => ⟨fun hhead => ?_, fun hhead => ?_⟩) ih
    · obtain ⟨more, rfl⟩ := List.head?_eq_some_iff.1 hhead
      exact hline more hc rfl
    · obtain ⟨more, rfl⟩ := List.head?_eq_some_iff.1 hhead
      exact hblock more hc rfl
  | case4 => exact .nil

/-- The clauses leave one body of each text. -/
theorem strips_iff {text body : List Char} : Strips text body ↔ body = withoutComments text := by
  refine ⟨fun h => ?_, fun h => h ▸ strips_withoutComments text⟩
  rw [withoutComments_eq, h.codeOf_eq]

/-! ### What is left begins no comment -/

/-- Where a text does not go on with a `/`, what is left of it goes on with the same character. -/
theorem Strips.head?_eq {text body : List Char} (h : Strips text body)
    (plain : text.head? ≠ some '/') : body.head? = text.head? := by
  cases h with
  | nil => rfl
  | char => rfl
  | line | lastLine | block | unclosed => exact absurd rfl plain

/-- **Nothing begins a comment** in what is left of a text. -/
theorem Strips.isBare {text body : List Char} (h : Strips text body) : IsBare body := by
  induction h with
  | nil | lastLine => exact isBare_nil
  | char opens h ih =>
    refine isBare_cons_iff.2 ⟨fun hc => ?_, ih⟩
    rw [h.head?_eq (opens hc).1]
    exact opens hc
  | line inside h ih => exact isBare_cons_iff.2 ⟨fun hc => absurd hc (by decide), ih⟩
  | block inside h ih => exact isBare_cons_iff.2 ⟨fun hc => absurd hc (by decide), ih⟩
  | unclosed => exact isBare_cons_iff.2 ⟨fun hc => absurd hc (by decide), isBare_nil⟩

/-- A text in which nothing begins a comment stays as it is. -/
theorem strips_self {cs : List Char} (bare : IsBare cs) : Strips cs cs := by
  induction cs with
  | nil => exact .nil
  | cons c rest ih =>
    obtain ⟨opens, hrest⟩ := isBare_cons_iff.1 bare
    exact .char opens (ih hrest)

/-- Taking comments out of a text without comments changes nothing. -/
theorem withoutComments_idem (cs : List Char) :
    withoutComments (withoutComments cs) = withoutComments cs :=
  (strips_iff.1 (strips_self (strips_withoutComments cs).isBare)).symm

/-- **Comments are taken out by a lexer in one pass**: what is left of a text is what the lexer leaves
that begins in code, and it alone is what the clauses of `Strips` say; nothing in it begins a comment,
so that it stays as it is, and it is a module and defines what the text is and does. -/
theorem withoutComments_is_lexer (text : String) :
    withoutComments text.toList = codeOf .code text.toList ∧
      (∀ body, Strips text.toList body ↔ body = withoutComments text.toList) ∧
      (¬ ['/', '/'] <:+: withoutComments text.toList ∧
        ¬ ['/', '*'] <:+: withoutComments text.toList) ∧
      withoutComments (withoutComments text.toList) = withoutComments text.toList ∧
      isModule (String.ofList (withoutComments text.toList)) = isModule text ∧
      symbols (String.ofList (withoutComments text.toList)) = symbols text := by
  have idem : bodyOf (String.ofList (withoutComments text.toList)) = bodyOf text := by
    rw [bodyOf, String.toList_ofList, withoutComments_idem, bodyOf]
  refine ⟨withoutComments_eq _, fun body => strips_iff, (strips_withoutComments _).isBare,
    withoutComments_idem _, ?_, ?_⟩
  · rw [isModule_eq, isModule_eq, idem]
  · rw [symbols_eq, symbols_eq, idem]

example : withoutComments "a/ / /*/ b //*/c// d".toList = "a/ /  c".toList := by cbv

end GpuDriver.Ptx
