import GpuDriver.Compile.Failure
import GpuDriver.Proofs.Text.Lines
import GpuDriver.Proofs.Text.Numeral

/-!
# What a dump shows

A dump ends with the lines of the source behind their numbers. They are found again in it, between the
heading `CUDA source:` and the closing line (`sourceSection`), numbered from one on in order
(`sourceSection_dump`, `hasLine_dump_iff`). A sink that is too small for a dump takes the beginning of it,
however the dump is cut into writes (`Sink.writeAll_eq`).
-/

namespace GpuDriver.Compile

open Text

/-! ### Finding the source in a dump -/

/-- The line above the source. -/
def heading : List Char := "CUDA source:".toList

/-- The line behind the source. -/
def closing : List Char := "-----".toList

/-- The lines of a dump that show the source: those between the last heading and the closing line. -/
def sourceSection (dump : List Char) : List (List Char) :=
  (lastPiece (· == heading) (dump.splitOn '\n')).dropLast.dropLast

/-- The dump shows this line of the source, and the number in front of it. -/
def HasLine (dump : List Char) (number : Nat) (line : List Char) : Prop :=
  ∃ field, field ++ ' ' :: line ∈ sourceSection dump ∧ digits? field = some number

/-- Lines that end with a line feed each are cut there, and where they hold one. -/
theorem pieces_lines (lines : List String) :
    pieces (· == '\n') (String.join (lines.map (· ++ "\n"))).toList =
      lines.flatMap (fun line => pieces (· == '\n') line.toList) ++ [[]] := by
  induction lines with
  | nil => rfl
  | cons line rest ih =>
    have whole : (String.join ((line :: rest).map (· ++ "\n"))).toList =
        line.toList ++ '\n' :: (String.join (rest.map (· ++ "\n"))).toList := by
      simp [String.toList_join, String.toList_append]
    rw [whole, pieces_append_cons (by decide), ih, List.flatMap_cons, List.append_assoc]

namespace Failure

variable (f : Failure) {width number : Nat} {lines : List (List Char)}

theorem sourceLines_eq : f.sourceLines = f.source.toList.splitOn '\n' := pieces_eq_splitOn _

theorem toList_numberedLine (width number : Nat) (line : List Char) :
    (numberedLine width number line).toList =
      (paddedDecimal width number).toList ++ ' ' :: trimEnd line := by
  simp [numberedLine, String.toList_append]

theorem length_numberedLines : (numberedLines width number lines).length = lines.length := by
  induction lines generalizing number with
  | nil => rfl
  | cons line rest ih => rw [numberedLines, List.length_cons, ih, List.length_cons]

theorem getElem?_numberedLines (i : Nat) : (numberedLines width number lines)[i]? =
    lines[i]?.map (numberedLine width (number + i)) := by
  induction lines generalizing number i with
  | nil => rfl
  | cons line rest ih =>
    cases i with
    | zero => rfl
    | succ i =>
      rw [numberedLines, List.getElem?_cons_succ, ih, List.getElem?_cons_succ, Nat.add_right_comm,
        Nat.add_assoc]

/-- A numbered line is one line. -/
theorem newline_not_mem_numberedLine {line : List Char} (h : '\n' ∉ line) :
    '\n' ∉ (numberedLine width number line).toList := by
  rw [toList_numberedLine, List.mem_append, List.mem_cons]
  rintro (digit | blank | hm)
  · exact absurd (isDigit_of_mem_paddedDecimal digit) (by decide)
  · exact absurd blank (by decide)
  · exact h ((List.rdropWhile_prefix _ _).subset hm)

/-- A numbered line begins with a digit. -/
theorem numberedLine_ne_heading (line : List Char) :
    (numberedLine width number line).toList ≠ heading := by
  intro h
  rw [toList_numberedLine] at h
  cases hfield : (paddedDecimal width number).toList with
  | nil =>
    rw [hfield] at h
    have first : some ' ' = some 'C' := congrArg List.head? h
    exact absurd first (by decide)
  | cons c rest =>
    have digit : c.isDigit = true := isDigit_of_mem_paddedDecimal (hfield ▸ List.mem_cons_self)
    rw [hfield] at h
    obtain rfl : c = 'C' := Option.some.inj (congrArg List.head? h)
    exact absurd digit (by decide)

/-- The lines of the source as the dump numbers them. -/
def shown : List (List Char) :=
  (numberedLines (decimal f.sourceLines.length).length 1 f.sourceLines).map String.toList

theorem length_shown : f.shown.length = f.sourceLines.length :=
  (List.length_map _).trans length_numberedLines

theorem getElem?_shown (i : Nat) : f.shown[i]? = f.sourceLines[i]?.map fun line =>
    (paddedDecimal (decimal f.sourceLines.length).length (i + 1)).toList ++ ' ' :: trimEnd line := by
  have line := funext (toList_numberedLine (decimal f.sourceLines.length).length (i + 1))
  rw [shown, List.getElem?_map, getElem?_numberedLines, Option.map_map, Nat.add_comm 1 i, ← line]
  rfl

/-- In front of each line stands its number, as wide as the number of all lines. -/
theorem exists_field {i : Nat} {line : List Char} (h : f.sourceLines[i]? = some line) : ∃ field,
    f.shown[i]? = some (field ++ ' ' :: trimEnd line) ∧
      field.length = (decimal f.sourceLines.length).length ∧ digits? field = some (i + 1) := by
  have below : i < f.sourceLines.length := (List.getElem?_eq_some_iff.1 h).1
  refine ⟨_, ?_, length_paddedDecimal (Nat.succ_le_of_lt below), digits?_paddedDecimal _ _⟩
  rw [getElem?_shown, h]
  rfl

/-- What stands behind the numbers. -/
theorem drop_shown : f.shown.map (List.drop ((decimal f.sourceLines.length).length + 1)) =
    f.sourceLines.map trimEnd := by
  refine List.ext_getElem? fun i => ?_
  rw [List.getElem?_map, List.getElem?_map]
  cases h : f.sourceLines[i]? with
  | none =>
    have shown : f.shown[i]? = none := by rw [getElem?_shown, h, Option.map_none]
    rw [shown]
    rfl
  | some line =>
    obtain ⟨field, there, wide, -⟩ := f.exists_field h
    have cut : (field ++ ' ' :: trimEnd line).drop ((decimal f.sourceLines.length).length + 1) =
        trimEnd line := by
      rw [← List.drop_drop, List.drop_left' wide]
      rfl
    rw [there, Option.map_some, cut, Option.map_some]

theorem newline_not_mem_sourceLines {line : List Char} (h : line ∈ f.sourceLines) : '\n' ∉ line :=
  fun hm => absurd (eq_false_of_mem_pieces h hm) (by decide)

theorem exists_of_mem_numberedLines {s : String} (h : s ∈ numberedLines width number lines) :
    ∃ line ∈ lines, ∃ n, s = numberedLine width n line := by
  obtain ⟨i, hi⟩ := List.getElem?_of_mem h
  rw [getElem?_numberedLines] at hi
  obtain ⟨line, hline, rfl⟩ := Option.map_eq_some_iff.1 hi
  exact ⟨line, List.mem_of_getElem? hline, _, rfl⟩

/-- The lines of a dump: what stands in front, the heading, the lines of the source, and the end. -/
theorem splitOn_dump : ∃ front, f.dump.toList.splitOn '\n' =
    front ++ heading :: (f.shown ++ [closing, []]) := by
  let numbered := numberedLines (decimal f.sourceLines.length).length 1 f.sourceLines
  have single : numbered.flatMap (fun line => pieces (· == '\n') line.toList) = f.shown := by
    have cut : ∀ s ∈ numbered, pieces (· == '\n') s.toList = [s.toList] := by
      intro s hs
      obtain ⟨line, hline, n, rfl⟩ := exists_of_mem_numberedLines hs
      exact pieces_eq_singleton (forall_beq_eq_false
        (newline_not_mem_numberedLine (f.newline_not_mem_sourceLines hline)))
    rw [List.flatMap_def, List.map_congr_left cut, ← List.flatMap_def, ← List.map_eq_flatMap]
    rfl
  have above : pieces (· == '\n') "CUDA source:".toList = [heading] := by decide
  have behind : pieces (· == '\n') "-----".toList = [closing] := by decide
  let front := [f.compiler.display ++ " compilation error: " ++ f.message, "-----", "Name: " ++ f.name,
    "Options: " ++ joined " " f.options]
  refine ⟨front.flatMap fun line => pieces (· == '\n') line.toList, ?_⟩
  have parts : f.dumpLines = front ++ (["CUDA source:"] ++ (numbered ++ ["-----"])) := rfl
  rw [← pieces_eq_splitOn, dump, pieces_lines, parts, List.flatMap_append, List.flatMap_append,
    List.flatMap_append, single, List.flatMap_singleton, List.flatMap_singleton, above, behind]
  simp only [List.append_assoc, List.cons_append, List.nil_append]

/-- **The source is found in its dump** as it was shown. -/
theorem sourceSection_dump : sourceSection f.dump.toList = f.shown := by
  obtain ⟨front, hdump⟩ := f.splitOn_dump
  have other : ∀ line ∈ f.shown ++ [closing, []], (line == heading) = false := by
    intro line hline
    obtain hline | hline := List.mem_append.1 hline
    · obtain ⟨s, hs, rfl⟩ := List.mem_map.1 hline
      obtain ⟨line, -, n, rfl⟩ := exists_of_mem_numberedLines hs
      exact beq_eq_false_iff_ne.2 (numberedLine_ne_heading line)
    · have last : ∀ line ∈ [closing, []], (line == heading) = false := by decide
      exact last line hline
  rw [sourceSection, hdump, lastPiece_append_cons (p := (· == heading)) (beq_self_eq_true heading),
    lastPiece_eq_self other]
  simp

/-- The field of digits in front of a line ends at the first blank. -/
theorem append_blank_inj {a b line line' : List Char} (ha : ∀ c ∈ a, c.isDigit = true)
    (hb : ∀ c ∈ b, c.isDigit = true) (h : a ++ ' ' :: line = b ++ ' ' :: line') :
    a = b ∧ line = line' := by
  have field {a : List Char} (ha : ∀ c ∈ a, c.isDigit = true) (line : List Char) :
      firstPiece (· == ' ') (a ++ ' ' :: line) = a := by
    have blank : ' ' ∉ a := fun hm => absurd (ha _ hm) (by decide)
    rw [firstPiece_append_of_forall (forall_beq_eq_false blank)]
    simp [firstPiece]
  have same : a = b := by rw [← field ha line, h, field hb line']
  subst same
  exact ⟨rfl, (List.cons.inj (List.append_cancel_left h)).2⟩

/-- **The line with a number** in a dump is that line of the source, without the blanks at its end. -/
theorem hasLine_dump_iff {number : Nat} {line : List Char} : HasLine f.dump.toList number line ↔
    ∃ i, number = i + 1 ∧ f.sourceLines[i]?.map trimEnd = some line := by
  unfold HasLine
  rw [sourceSection_dump]
  constructor
  · rintro ⟨field, there, named⟩
    obtain ⟨i, hi⟩ := List.getElem?_of_mem there
    rw [getElem?_shown] at hi
    obtain ⟨sourceLine, hline, same⟩ := Option.map_eq_some_iff.1 hi
    obtain ⟨rfl, rfl⟩ := append_blank_inj (fun _ => isDigit_of_mem_paddedDecimal)
      (isDigit_of_digits? named) same
    have number := (digits?_paddedDecimal _ (i + 1)).symm.trans named
    exact ⟨i, (Option.some.inj number).symm, by rw [hline]; rfl⟩
  · rintro ⟨i, rfl, hline⟩
    obtain ⟨sourceLine, there, rfl⟩ := Option.map_eq_some_iff.1 hline
    refine ⟨(paddedDecimal (decimal f.sourceLines.length).length (i + 1)).toList, ?_,
      digits?_paddedDecimal _ (i + 1)⟩
    refine List.mem_of_getElem? ((getElem?_shown f i).trans ?_)
    rw [there]
    rfl

end Failure

/-! ### Writing a dump -/

namespace Sink

/-- Writing in two parts: the second is written if all of the first was. -/
theorem write_append (s : Sink) (b c : Bytes) : s.write (b ++ c) =
    if (s.write b).1 = true then (s.write b).2.write c else (false, (s.write b).2) := by
  obtain ⟨_ | room, accepted⟩ := s
  · simp [write]
  · simp only [write, List.length_append, List.take_append, decide_eq_true_eq]
    split
    · rename_i fits
      have left : (b.length + c.length ≤ room) ↔ c.length ≤ room - b.length := by omega
      rw [decide_eq_decide.2 left, Nat.sub_add_eq, List.append_assoc]
    · rename_i full
      have full' : ¬ b.length + c.length ≤ room := by omega
      have none : room - b.length = 0 := by omega
      rw [decide_eq_false full', Nat.sub_add_eq, none, List.take_zero, List.append_nil,
        Nat.zero_sub]

/-- **It does not matter how octets are cut into writes.** -/
theorem writeAll_eq (s : Sink) (chunks : List Bytes) : s.writeAll chunks = s.write chunks.flatten := by
  induction chunks generalizing s with
  | nil => obtain ⟨_ | room, accepted⟩ := s <;> simp [writeAll, write]
  | cons b rest ih =>
    rw [writeAll, List.flatten_cons, write_append]
    rcases s.write b with ⟨_ | _, s'⟩
    · rfl
    · exact ih s'

end Sink

namespace Failure

variable (f : Failure)

theorem encode_join (texts : List String) :
    Utf8.encode (String.join texts) = (texts.map Utf8.encode).flatten := by
  induction texts with
  | nil => rfl
  | cons text rest ih =>
    rw [String.join_cons, Utf8.encode_append, ih, List.map_cons, List.flatten_cons]

/-- The dump is written as a whole. -/
theorem dumpInto_eq (s : Sink) : f.dumpInto s = s.write (Utf8.encode f.dump) := by
  rw [dumpInto, Sink.writeAll_eq, dump, encode_join, List.map_map]
  rfl

/-- **A dump shows the source.** Of the lines of the dump, the last are a heading, one line for each line
of the source, and the closing line. The line for the line `i` of the source is the number `i`, with zeros
in front as wide as the number of all lines, a blank, and the line without the blanks at its end; so what
stands behind the numbers is the source without the blanks at the ends of its lines. Written into a sink
that takes so many octets and no more, the dump succeeds exactly if it is not longer, and the sink has
taken the beginning of it. This is so in whatever writes the dump is written. -/
theorem dump_shows_source (f : Failure) :
    let sourceLines := f.source.toList.splitOn '\n'
    let width := (decimal sourceLines.length).length
    let shown := sourceSection f.dump.toList
    let total := (Utf8.encode f.dump).length
    (∃ front, f.dump.toList.splitOn '\n' = front ++ heading :: (shown ++ [closing, []])) ∧
    shown.length = sourceLines.length ∧
    (∀ i line, sourceLines[i]? = some line → ∃ field,
      shown[i]? = some (field ++ ' ' :: trimEnd line) ∧ field.length = width ∧
        digits? field = some (i + 1)) ∧
    ['\n'].intercalate (shown.map (List.drop (width + 1))) =
      ['\n'].intercalate (sourceLines.map trimEnd) ∧
    ∀ limit : Nat,
      let sink : Sink := { room := some limit }
      (f.dumpInto sink).2.accepted = (Utf8.encode f.dump).take (min limit total) ∧
      ((f.dumpInto sink).1 = true ↔ total ≤ limit) ∧
      ∀ chunks : List Bytes, chunks.flatten = Utf8.encode f.dump →
        sink.writeAll chunks = f.dumpInto sink := by
  dsimp only
  rw [← f.sourceLines_eq, f.sourceSection_dump]
  refine ⟨f.splitOn_dump, f.length_shown, fun _ _ => f.exists_field, ?_, fun limit => ?_⟩
  · rw [f.drop_shown]
  · rw [f.dumpInto_eq]
    refine ⟨?_, decide_eq_true_iff, fun chunks whole => ?_⟩
    · exact List.take_eq_take_min
    · rw [Sink.writeAll_eq, whole]

/-- Ten lines, some with blanks at their ends, and a message that looks like a dump; a sink is full in the
midst of it. -/
theorem dump_shows_source_ten :
    let f : Failure := {
      compiler := .nvcc
      message := "boom\nCUDA source:\n01 no\n-----"
      source := "a \n\n\t\r\n4\n5\n6\n7\n8\n9\nlast \u00A0"
      name := "kern.cu"
      options := ["-O3", "-lineinfo"] }
    let sink : Sink := { room := some 40 }
    (∃ field, (sourceSection f.dump.toList)[9]? = some (field ++ ' ' :: "last".toList) ∧
      field.length = 2 ∧ digits? field = some 10) ∧
    (f.dumpInto sink).1 = false ∧
      sink.writeAll [(Utf8.encode f.dump).take 7, (Utf8.encode f.dump).drop 7] = f.dumpInto sink := by
  intro f sink
  have last : (f.source.toList.splitOn '\n')[9]? = some "last \u00A0".toList := by decide +kernel
  have long : ¬ (Utf8.encode f.dump).length ≤ 40 := by decide +kernel
  have trimmed : trimEnd "last \u00A0".toList = "last".toList := by decide +kernel
  have digits : (decimal (f.source.toList.splitOn '\n').length).length = 2 := by decide +kernel
  clear_value f
  obtain ⟨-, -, shown, -, written⟩ := dump_shows_source f
  obtain ⟨-, succeeds, cut⟩ := written 40
  have whole : [(Utf8.encode f.dump).take 7, (Utf8.encode f.dump).drop 7].flatten =
      Utf8.encode f.dump := by simp
  obtain ⟨field, there, wide, named⟩ := shown 9 _ last
  rw [trimmed] at there
  rw [digits] at wide
  exact ⟨⟨field, there, wide, named⟩, eq_false_of_ne_true (mt succeeds.1 long), cut _ whole⟩

end Failure

end GpuDriver.Compile
