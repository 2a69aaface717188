import GpuDriver.Proofs.Text.Lines
import GpuDriver.Source.Translation

/-!
# The flaw of a source

The flaw of a source is its first `#error` directive or, if there is none, that its braces are not
balanced (`HasFlaw`). That is what the translation finds (`flaw?_eq_some_iff`), although it counts the
lines in another way than they are counted here, and although it does not look at the braces behind the
first that closes too much.
-/

namespace GpuDriver.Source

open Text

/-! ### What a flaw is -/

/-- The line is an `#error` directive. -/
def IsDirective (line : List Char) : Prop := "#error".toList <+: trim line

/-- Some part of a text from the start closes more braces than it opens, or the whole does not open as
many as it closes. -/
def Unbalanced (cs : List Char) : Prop :=
  (∃ front, front <+: cs ∧ front.count '\x7b' < front.count '\x7d') ∨
    cs.count '\x7b' ≠ cs.count '\x7d'

/-- Of some lines, the one behind the first `i` is the first `#error` directive. -/
structure FirstDirective (lines : List (List Char)) (i : Nat) (line rest : List Char) : Prop where
  /-- It is the line at this place. -/
  there : lines[i]? = some line
  /-- It is a directive, with this behind it. -/
  directive : trim line = "#error".toList ++ rest
  /-- No line before it is one. -/
  first : ∀ earlier ∈ lines.take i, ¬ IsDirective earlier

/-- A text has a flaw, which is seen in this line. -/
inductive HasFlaw (cs : List Char) : Flaw → List Char → Prop
  /-- The line is the first directive. -/
  | directive {i : Nat} {line rest : List Char}
    (first : FirstDirective (cs.splitOn '\n') i line rest) :
    HasFlaw cs (.directive (i + 1) (String.ofList (trim rest))) line
  /-- There is no directive, but the braces are not balanced. The line is the last one. -/
  | unbalanced {line : List Char} (none : ∀ line ∈ cs.splitOn '\n', ¬ IsDirective line)
    (braces : Unbalanced cs) (last : (lines cs).getLast? = some line) :
    HasFlaw cs (.unbalanced (lines cs).length) line

/-- The number of the line that a flaw is seen in. -/
def Flaw.line : Flaw → Nat
  | directive line _ => line
  | unbalanced lastLine => lastLine

/-! ### Braces -/

theorem forall_prefix_cons {P : List Char → Prop} {c : Char} {rest : List Char} :
    (∀ front, front <+: c :: rest → P front) ↔ P [] ∧ ∀ front, front <+: rest → P (c :: front) := by
  constructor
  · exact fun h => ⟨h [] List.nil_prefix, fun front hf => h _ (List.cons_prefix_cons.2 ⟨rfl, hf⟩)⟩
  · rintro ⟨none, more⟩ (_ | ⟨d, front⟩) hf
    · exact none
    · obtain ⟨rfl, within⟩ := List.cons_prefix_cons.1 hf
      exact more front within

/-- So many braces are open behind a text if no part of it closes too many, and if they add up. -/
theorem braceDepth_eq_some_iff {depth n : Nat} {cs : List Char} : braceDepth depth cs = some n ↔
    (∀ front, front <+: cs → front.count '\x7d' ≤ depth + front.count '\x7b') ∧
      n + cs.count '\x7d' = depth + cs.count '\x7b' := by
  fun_induction braceDepth depth cs with
  | case1 depth => simp [eq_comm]
  | case2 depth rest ih =>
    rw [ih, forall_prefix_cons]
    grind
  | case3 rest h =>
    refine iff_of_false (Option.some_ne_none n).symm fun adds => ?_
    exact absurd (adds.1 ['\x7d'] (List.prefix_append _ rest)) (by decide)
  | case4 depth rest h h' ih =>
    rw [ih, forall_prefix_cons]
    grind
  | case5 depth c rest h h' ih =>
    rw [ih, forall_prefix_cons]
    grind

theorem balanced_eq_true_iff {cs : List Char} : balanced cs = true ↔ ¬ Unbalanced cs := by
  rw [balanced, beq_iff_eq, braceDepth_eq_some_iff, Unbalanced, not_or, not_exists, not_not]
  simp only [not_and, Nat.not_lt, Nat.zero_add, eq_comm]

theorem balanced_eq_false_iff {cs : List Char} : balanced cs = false ↔ Unbalanced cs := by
  rw [← Bool.not_eq_true, balanced_eq_true_iff, not_not]

/-- Where braces are not balanced, there are some. -/
theorem lines_ne_nil_of_unbalanced {cs : List Char} (h : Unbalanced cs) : Text.lines cs ≠ [] := by
  intro none
  obtain rfl := eq_nil_of_lines_eq_nil none
  exact balanced_eq_true_iff.1 rfl h

/-! ### Directives -/

theorem isDirective_iff {line : List Char} :
    IsDirective line ↔ ∃ rest, trim line = "#error".toList ++ rest := by
  simp only [IsDirective, List.IsPrefix, eq_comm]

theorem not_isDirective_of_none {line : List Char}
    (none : after? "#error".toList (trim line) = none) : ¬ IsDirective line := by
  rw [isDirective_iff]
  rintro ⟨rest, directive⟩
  rw [after?_eq_some_iff.2 directive] at none
  cases none

variable {number : Nat} {lines : List (List Char)} {flaw : Flaw}

theorem directiveIn?_eq_none_iff :
    directiveIn? number lines = none ↔ ∀ line ∈ lines, ¬ IsDirective line := by
  fun_induction directiveIn? number lines with
  | case1 => simp
  | case2 number line lines rest found =>
    have directive : IsDirective line := isDirective_iff.2 ⟨rest, after?_eq_some_iff.1 found⟩
    simp [directive]
  | case3 number line lines none ih =>
    have plain : ¬ IsDirective line := not_isDirective_of_none none
    simp [plain, ih]

theorem directiveIn?_eq_some_iff : directiveIn? number lines = some flaw ↔ ∃ i line rest,
    FirstDirective lines i line rest ∧
      flaw = .directive (number + i) (String.ofList (trim rest)) := by
  fun_induction directiveIn? number lines with
  | case1 =>
    constructor
    · rintro ⟨⟩
    · rintro ⟨i, line, rest, ⟨⟨⟩, -, -⟩, -⟩
  | case2 number line lines rest found =>
    have directive := after?_eq_some_iff.1 found
    constructor
    · rintro ⟨rfl⟩
      exact ⟨0, line, rest, ⟨rfl, directive, by simp⟩, rfl⟩
    · rintro ⟨_ | i, line', rest', ⟨there, directive', first⟩, rfl⟩
      · obtain rfl : line = line' := Option.some.inj there
        rw [List.append_cancel_left (directive.symm.trans directive')]
        rfl
      · exact absurd (isDirective_iff.2 ⟨rest, directive⟩) (first line (by simp))
  | case3 number line lines none ih =>
    have plain : ¬ IsDirective line := not_isDirective_of_none none
    rw [ih]
    constructor
    · rintro ⟨i, line', rest, ⟨there, directive, first⟩, rfl⟩
      refine ⟨i + 1, line', rest, ⟨there, directive, ?_⟩, by rw [Nat.add_right_comm, Nat.add_assoc]⟩
      exact List.forall_mem_cons.2 ⟨plain, first⟩
    · rintro ⟨_ | i, line', rest, ⟨there, directive, first⟩, rfl⟩
      · obtain rfl : line = line' := Option.some.inj there
        exact absurd (isDirective_iff.2 ⟨rest, directive⟩) plain
      · exact ⟨i, line', rest, ⟨there, directive, (List.forall_mem_cons.1 first).2⟩,
          by rw [Nat.add_right_comm, Nat.add_assoc]⟩

/-- The blanks at the ends of the lines make no difference. -/
theorem directiveIn?_map_trimEnd : directiveIn? number (lines.map trimEnd) =
    directiveIn? number lines := by
  induction lines generalizing number with
  | nil => rfl
  | cons line lines ih => rw [List.map_cons, directiveIn?, trim_trimEnd, ih, directiveIn?]

/-- Nor do lines behind them that are no directives. -/
theorem directiveIn?_append {tail : List (List Char)} (plain : ∀ line ∈ tail, ¬ IsDirective line) :
    directiveIn? number (lines ++ tail) = directiveIn? number lines := by
  induction lines generalizing number with
  | nil => exact directiveIn?_eq_none_iff.2 plain
  | cons line lines ih => rw [List.cons_append, directiveIn?, ih, directiveIn?]

/-- **Both ways to count lines number the directives alike.** -/
theorem directiveIn?_lines (number : Nat) (cs : List Char) :
    directiveIn? number (Text.lines cs) = directiveIn? number (cs.splitOn '\n') := by
  obtain ⟨tail, short, split⟩ := map_trimEnd_splitOn cs
  have plain : ∀ line ∈ tail, ¬ IsDirective line := by
    have empty : ¬ IsDirective [] := not_isDirective_of_none rfl
    obtain rfl | rfl := short
    · exact fun _ hm => absurd hm List.not_mem_nil
    · exact List.forall_mem_singleton.2 empty
  rw [← directiveIn?_map_trimEnd, ← directiveIn?_append plain, ← split, directiveIn?_map_trimEnd]

/-! ### What the translation finds -/

variable {source : String} {target : Int}

/-- **The translation finds the flaw.** -/
theorem flaw?_eq_some_iff : flaw? source = some flaw ↔ ∃ line, HasFlaw source.toList flaw line := by
  unfold flaw?
  rw [directiveIn?_lines]
  constructor
  · rcases found : directiveIn? 1 (source.toList.splitOn '\n') with _ | directive
    · intro h
      have plain := directiveIn?_eq_none_iff.1 found
      rcases closed : balanced source.toList with _ | _
      · have braces : Unbalanced source.toList := balanced_eq_false_iff.1 closed
        have last := List.getLast?_eq_some_getLast (lines_ne_nil_of_unbalanced braces)
        rw [closed] at h
        obtain rfl := Option.some.inj h
        exact ⟨_, .unbalanced plain braces last⟩
      · rw [closed] at h
        cases h
    · rintro ⟨⟩
      obtain ⟨i, line, rest, first, rfl⟩ := directiveIn?_eq_some_iff.1 found
      exact ⟨line, Nat.add_comm i 1 ▸ .directive first⟩
  · rintro ⟨line, found⟩
    cases found with
    | @directive i line rest first =>
      have found : directiveIn? 1 (source.toList.splitOn '\n') =
          some (.directive (i + 1) (String.ofList (trim rest))) :=
        directiveIn?_eq_some_iff.2 ⟨i, line, rest, first, by rw [Nat.add_comm]⟩
      rw [found]
    | unbalanced plain braces last =>
      rw [directiveIn?_eq_none_iff.2 plain, balanced_eq_false_iff.2 braces]
      rfl

/-- The line with a flaw has its number also among the pieces between line feeds. -/
theorem HasFlaw.getElem?_splitOn {cs line : List Char} (h : HasFlaw cs flaw line) : ∃ i,
    flaw.line = i + 1 ∧ (cs.splitOn '\n')[i]?.map trimEnd = some (trimEnd line) := by
  cases h with
  | directive first => exact ⟨_, rfl, congrArg (Option.map trimEnd) first.there⟩
  | unbalanced none braces last =>
    obtain ⟨front, split⟩ := List.getLast?_eq_some_iff.1 last
    obtain ⟨tail, -, same⟩ := map_trimEnd_splitOn cs
    refine ⟨front.length, by rw [Flaw.line, split, List.length_append]; rfl, ?_⟩
    rw [← List.getElem?_map, same, split]
    simp

theorem flaw?_eq_none_iff : flaw? source = none ↔
    (∀ line ∈ source.toList.splitOn '\n', ¬ IsDirective line) ∧ ¬ Unbalanced source.toList := by
  unfold flaw?
  rw [directiveIn?_lines, ← directiveIn?_eq_none_iff, ← balanced_eq_true_iff]
  cases directiveIn? 1 (source.toList.splitOn '\n') with
  | some flaw => simp
  | none => simp

theorem translate_eq_flaw_iff : translate source target = .error (.flaw flaw) ↔
    flaw? source = some flaw := by
  unfold translate
  cases flaw? source with
  | some flaw => simp
  | none =>
    rcases kernelNames source with (_ | _) | kernels
    · simp
    · simp

end GpuDriver.Source
