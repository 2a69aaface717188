import GpuDriver.Ptx.Comment

/-!
# Comments across the end of a text

A text is read in one of three modes: as code, within a line comment, or within a block comment.
`codeOf` reads it character by character in the mode that it begins in, and `modeAfter` tells the mode
that it ends in; what a text keeps without its comments is what `codeOf` keeps of it
(`withoutComments_eq`). A line feed between two texts keeps `//` and the other pairs from forming across
it, so that the two are read one after the other, the second in the mode that the first leaves
(`codeOf_append`).
-/

namespace GpuDriver.Ptx

/-- How a character is read. -/
inductive Mode
  /-- As code. -/
  | code
  /-- As part of a comment that ends with its line. -/
  | line
  /-- As part of a comment that ends with `*/`. -/
  | block
deriving DecidableEq, Repr

/-- What is left of a text, without its comments, that begins in a mode. -/
def codeOf : Mode → List Char → List Char
  | .code, '/' :: '/' :: rest => codeOf .line rest
  | .code, '/' :: '*' :: rest => ' ' :: codeOf .block rest
  | .code, c :: rest => c :: codeOf .code rest
  | .line, '\n' :: rest => '\n' :: codeOf .code rest
  | .line, _ :: rest => codeOf .line rest
  | .block, '*' :: '/' :: rest => codeOf .code rest
  | .block, _ :: rest => codeOf .block rest
  | _, [] => []

/-- The mode at the end of a text that begins in a mode. -/
def modeAfter : Mode → List Char → Mode
  | .code, '/' :: '/' :: rest => modeAfter .line rest
  | .code, '/' :: '*' :: rest => modeAfter .block rest
  | .code, _ :: rest => modeAfter .code rest
  | .line, '\n' :: rest => modeAfter .code rest
  | .line, _ :: rest => modeAfter .line rest
  | .block, '*' :: '/' :: rest => modeAfter .code rest
  | .block, _ :: rest => modeAfter .block rest
  | m, [] => m

-- in this module both unfold wherever the next characters are known
attribute [local simp] codeOf modeAfter

/-! ### The same text without its comments -/

theorem codeOf_line (cs : List Char) : codeOf .line cs = codeOf .code (cs.dropWhile (· != '\n')) := by
  induction cs with
  | nil => rfl
  | cons c rest ih =>
    by_cases hc : c = '\n'
    · subst hc
      simp
    · rw [codeOf.eq_5 _ _ hc, ih, List.dropWhile_cons_of_pos (by simpa using hc)]

theorem codeOf_block (cs : List Char) : codeOf .block cs = codeOf .code (afterClose cs) := by
  fun_induction afterClose cs with
  | case1 rest => rfl
  | case2 c rest h ih => rw [codeOf.eq_7 _ _ h, ih]
  | case3 => rfl

/-- **What is left of a text without its comments** is what is left of it when it is read as code. -/
theorem withoutComments_eq (cs : List Char) : withoutComments cs = codeOf .code cs := by
  fun_induction withoutComments cs with
  | case1 rest ih => rw [ih, codeOf, codeOf_line]
  | case2 rest ih => rw [ih, codeOf, codeOf_block]
  | case3 c rest h h' ih => rw [ih, codeOf.eq_3 _ _ h h']
  | case4 => rfl

/-! ### Reading on after a text -/

/-- A text that does not go on with a character does not do so with a line feed behind it either. -/
theorem append_ne_cons {a : Char} {cs : List Char} (ha : a ≠ '\n') (h : ∀ rest, cs ≠ a :: rest)
    (ds rest : List Char) : cs ++ '\n' :: ds ≠ a :: rest := by
  cases cs with
  | nil => exact fun heq => ha (List.cons.inj heq).1.symm
  | cons b bs =>
    intro heq
    obtain ⟨rfl, -⟩ := List.cons.inj heq
    exact h bs rfl

/-- **Two texts with a line feed between them** are read one after the other. -/
theorem codeOf_append (m : Mode) (cs ds : List Char) :
    codeOf m (cs ++ '\n' :: ds) = codeOf m cs ++ codeOf (modeAfter m cs) ('\n' :: ds) := by
  fun_induction modeAfter m cs with
  | case1 rest ih => simp [ih]
  | case2 rest ih => simp [ih]
  | case3 c rest h h' ih =>
    have h₁ := fun hc : c = '/' => append_ne_cons (by decide) (fun r => h r hc) ds
    have h₂ := fun hc : c = '/' => append_ne_cons (by decide) (fun r => h' r hc) ds
    rw [List.cons_append, codeOf.eq_3 _ _ (fun r hc => h₁ hc r) (fun r hc => h₂ hc r), ih,
      codeOf.eq_3 _ _ h h', List.cons_append]
  | case4 rest ih => simp [ih]
  | case5 c rest h ih => rw [List.cons_append, codeOf.eq_5 _ _ h, ih, codeOf.eq_5 _ _ h]
  | case6 rest ih => simp [ih]
  | case7 c rest h ih =>
    have h₁ := fun hc : c = '*' => append_ne_cons (by decide) (fun r => h r hc) ds
    rw [List.cons_append, codeOf.eq_7 _ _ (fun r hc => h₁ hc r), ih, codeOf.eq_7 _ _ h]
  | case8 m => simp

/-- After code or a line comment, a line feed stays and what follows is code. -/
theorem codeOf_newline {m : Mode} (hm : m ≠ .block) (ds : List Char) :
    codeOf m ('\n' :: ds) = '\n' :: codeOf .code ds := by
  cases m with
  | code => simp
  | line => simp
  | block => exact absurd rfl hm

/-- In an open block comment nothing is left of a text that has no `/`. -/
theorem codeOf_block_eq_nil {cs : List Char} (h : '/' ∉ cs) : codeOf .block cs = [] := by
  induction cs with
  | nil => rfl
  | cons c rest ih =>
    have hc : ∀ r, c = '*' → rest = '/' :: r → False := fun r _ hr => h (by simp [hr])
    rw [codeOf.eq_7 _ _ hc, ih (fun hr => h (List.mem_cons_of_mem _ hr))]

/-- A text without `/` has no comments. -/
theorem codeOf_code_eq_self {cs : List Char} (h : '/' ∉ cs) : codeOf .code cs = cs := by
  induction cs with
  | nil => rfl
  | cons c rest ih =>
    have hc : c ≠ '/' := fun hc => h (by simp [hc])
    rw [codeOf.eq_3 _ _ (fun _ h' => absurd h' hc) (fun _ h' => absurd h' hc),
      ih (fun hr => h (List.mem_cons_of_mem _ hr))]

/-! ### What a text begins with -/

/-- A character that does not begin a comment is code. -/
theorem codeOf_char {c : Char} {text : List Char}
    (opens : c = '/' → text.head? ≠ some '/' ∧ text.head? ≠ some '*') :
    codeOf .code (c :: text) = c :: codeOf .code text ∧
      modeAfter .code (c :: text) = modeAfter .code text := by
  have hline : ∀ r, c = '/' → text = '/' :: r → False := by
    rintro r hc rfl
    exact (opens hc).1 rfl
  have hblock : ∀ r, c = '/' → text = '*' :: r → False := by
    rintro r hc rfl
    exact (opens hc).2 rfl
  exact ⟨codeOf.eq_3 _ _ hline hblock, modeAfter.eq_3 _ _ hline hblock⟩

/-! ### Comments that are closed -/

/-- A line comment ends with its line. -/
theorem codeOf_line_append {content : List Char} (inside : '\n' ∉ content) (text : List Char) :
    codeOf .line (content ++ '\n' :: text) = '\n' :: codeOf .code text ∧
      modeAfter .line (content ++ '\n' :: text) = modeAfter .code text := by
  induction content with
  | nil => exact ⟨rfl, rfl⟩
  | cons c rest ih =>
    obtain ⟨hc, hrest⟩ := List.ne_and_not_mem_of_not_mem_cons inside
    rw [List.cons_append, codeOf.eq_5 _ _ hc.symm, modeAfter.eq_5 _ _ hc.symm]
    exact ih hrest

/-- A block comment ends where it is closed for the first time. -/
theorem codeOf_block_append {content : List Char} (inside : ¬ ['*', '/'] <:+: content)
    (text : List Char) :
    codeOf .block (content ++ '*' :: '/' :: text) = codeOf .code text ∧
      modeAfter .block (content ++ '*' :: '/' :: text) = modeAfter .code text := by
  induction content with
  | nil => exact ⟨rfl, rfl⟩
  | cons c rest ih =>
    have hopen : ∀ r, c = '*' → rest ++ '*' :: '/' :: text = '/' :: r → False := by
      rintro r rfl heq
      cases rest with
      | nil => cases heq
      | cons d rest =>
        obtain rfl : d = '/' := (List.cons.inj heq).1
        exact inside ⟨[], rest, rfl⟩
    have hrest : ¬ ['*', '/'] <:+: rest := fun h => inside (h.trans (List.infix_cons List.infix_rfl))
    rw [List.cons_append, codeOf.eq_7 _ _ hopen, modeAfter.eq_7 _ _ hopen]
    exact ih hrest

end GpuDriver.Ptx
