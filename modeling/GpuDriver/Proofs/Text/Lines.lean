import Mathlib.Data.List.DropRight
import GpuDriver.Proofs.Text.Pieces

/-!
# Two ways to count lines

The lines of a text end at line feeds, and so do the pieces between its line feeds. They differ in the
returns that belong to the endings, and in an empty piece behind the last line feed. Who does not look at
the blanks at the end of a line sees the same lines in both, with the same numbers
(`map_trimEnd_splitOn`).
-/

namespace GpuDriver.Text

/-! ### Blanks at the end -/

theorem trimEnd_eq_rdropWhile (cs : List Char) : trimEnd cs = cs.rdropWhile isBlank := rfl

/-- A text is what is left of it when it is trimmed at the end, and blanks. -/
theorem exists_trimEnd_append (cs : List Char) :
    ∃ blanks, (∀ c ∈ blanks, isBlank c = true) ∧ trimEnd cs ++ blanks = cs :=
  ⟨cs.rtakeWhile isBlank, fun _ => List.mem_rtakeWhile_imp,
    List.rdropWhile_append_rtakeWhile⟩

section Blanks

variable {blanks : List Char} (blank : ∀ c ∈ blanks, isBlank c = true)

include blank

theorem trimEnd_append (cs : List Char) : trimEnd (cs ++ blanks) = trimEnd cs := by
  have dropped : (blanks.reverse ++ cs.reverse).dropWhile isBlank = cs.reverse.dropWhile isBlank :=
    List.dropWhile_append_of_pos fun c hc => blank c (List.mem_reverse.1 hc)
  rw [trimEnd, trimEndWhile, List.reverse_append, dropped]
  rfl

theorem trim_append (cs : List Char) : trim (cs ++ blanks) = trim cs := by
  unfold trim trimStart
  rw [List.dropWhile_append]
  split
  · rename_i nothing
    have none : blanks.dropWhile isBlank = [] := List.dropWhile_eq_nil_iff.2 blank
    rw [none, List.isEmpty_iff.1 nothing]
  · exact trimEnd_append blank _

end Blanks

/-- Trimming at both ends is also trimming at the end. -/
theorem trim_trimEnd (cs : List Char) : trim (trimEnd cs) = trim cs := by
  obtain ⟨blanks, blank, whole⟩ := exists_trimEnd_append cs
  rw [← trim_append blank, whole]

/-- A return is a blank. -/
theorem trimEnd_withoutReturn (line : List Char) : trimEnd (withoutReturn line) = trimEnd line := by
  unfold withoutReturn
  split
  · rename_i ending
    obtain ⟨front, rfl⟩ := List.getLast?_eq_some_iff.1 ending
    rw [List.dropLast_concat, trimEnd_eq_rdropWhile, trimEnd_eq_rdropWhile,
      List.rdropWhile_concat_pos _ _ _ (by decide)]
  · rfl

/-! ### Lines and pieces -/

theorem pieces_eq_splitOn (cs : List Char) : pieces (· == '\n') cs = cs.splitOn '\n' := by
  rw [pieces_eq_splitOnP, List.splitOn_eq_splitOnP]

/-- The lines, from the pieces between line feeds: the last one is a line unless it is empty. -/
theorem exists_lines_eq (cs : List Char) : ∃ front last, cs.splitOn '\n' = front ++ [last] ∧
    lines cs = front.map withoutReturn ++ if last = [] then [] else [last] := by
  obtain none | ⟨front, last, split⟩ := List.eq_nil_or_concat (pieces (· == '\n') cs)
  · exact absurd none (pieces_ne_nil _ cs)
  · rw [List.concat_eq_append] at split
    refine ⟨front, last, (pieces_eq_splitOn cs).symm.trans split, ?_⟩
    rw [lines, split]
    cases last <;> simp

/-- **Two ways to count lines.** The pieces between line feeds are the lines, up to the blanks at their
ends, and perhaps an empty piece behind them. -/
theorem map_trimEnd_splitOn (cs : List Char) : ∃ tail, (tail = [] ∨ tail = [[]]) ∧
    (cs.splitOn '\n').map trimEnd = (lines cs).map trimEnd ++ tail := by
  obtain ⟨front, last, split, hlines⟩ := exists_lines_eq cs
  have ended : (front.map withoutReturn).map trimEnd = front.map trimEnd := by
    rw [List.map_map]
    exact List.map_congr_left fun line _ => trimEnd_withoutReturn line
  rw [split, hlines, List.map_append, List.map_append, ended]
  split
  · rename_i empty
    exact ⟨[[]], Or.inr rfl, by rw [empty]; simp; rfl⟩
  · exact ⟨[], Or.inl rfl, by simp⟩

/-- Only the empty text has no lines. -/
theorem eq_nil_of_lines_eq_nil {cs : List Char} (h : lines cs = []) : cs = [] := by
  obtain ⟨front, last, split, hlines⟩ := exists_lines_eq cs
  obtain ⟨hfront, hlast⟩ := List.append_eq_nil_iff.1 (hlines.symm.trans h)
  obtain rfl := List.map_eq_nil_iff.1 hfront
  have empty : last = [] := by
    by_contra full
    rw [if_neg full] at hlast
    cases hlast
  have whole : ['\n'].intercalate (cs.splitOn '\n') = cs := List.intercalate_splitOn '\n'
  rw [← whole, split, empty]
  rfl

end GpuDriver.Text
