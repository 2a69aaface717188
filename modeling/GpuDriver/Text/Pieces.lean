import GpuDriver.Text.Blank

/-!
# Cutting a text into pieces

`pieces p` cuts a list at every member in `p`; a list without one is a single piece. Words are the
non-empty pieces between blanks. Lines end at a line feed: a return just before it belongs to the
ending, and a text that ends with a line feed has no empty line after it.
-/

namespace GpuDriver.Text

/-- The pieces between the members in `p`, in order, empty ones included. -/
def pieces {α : Type} (p : α → Bool) : List α → List (List α)
  | [] => [[]]
  | c :: rest =>
    if p c then [] :: pieces p rest
    else match pieces p rest with
      | [] => [[c]]
      | w :: ws => (c :: w) :: ws

theorem pieces_ne_nil {α : Type} (p : α → Bool) (cs : List α) : pieces p cs ≠ [] := by
  fun_cases pieces p cs <;> simp

/-- What stands before the first member in `p`. -/
def firstPiece {α : Type} (p : α → Bool) (cs : List α) : List α := cs.takeWhile fun c => !p c

/-- What stands after the last member in `p`. -/
def lastPiece {α : Type} (p : α → Bool) (cs : List α) : List α :=
  (cs.reverse.takeWhile fun c => !p c).reverse

/-- The words of a text: the longest runs without a blank. -/
def words (cs : List Char) : List (List Char) :=
  (pieces isBlank cs).filter fun w => !w.isEmpty

/-- A line without the return that belongs to its ending. -/
def withoutReturn (line : List Char) : List Char :=
  if line.getLast? = some '\r' then line.dropLast else line

/-- The lines of a text. What follows the last line feed is a line unless it is empty, and keeps a
return at its end. -/
def lines (cs : List Char) : List (List Char) :=
  (pieces (· == '\n') cs).dropLast.map withoutReturn ++
    ((pieces (· == '\n') cs).getLast?.toList.filter fun last => !last.isEmpty)

/-- What follows the first text in the second, if the second begins with it. -/
def after? : List Char → List Char → Option (List Char)
  | [], cs => some cs
  | _ :: _, [] => none
  | a :: start, c :: cs => if a = c then after? start cs else none

theorem after?_eq_some_iff {start cs rest : List Char} :
    after? start cs = some rest ↔ cs = start ++ rest := by
  fun_induction after? start cs <;> grind

/-- What precedes `ending` in a text that ends with it. -/
def before? (ending cs : List Char) : Option (List Char) :=
  (after? ending.reverse cs.reverse).map List.reverse

/-- `word` stands somewhere in `cs`. -/
def holds (word : List Char) : List Char → Bool
  | [] => word.isEmpty
  | c :: rest => word.isPrefixOf (c :: rest) || holds word rest

/-- The texts one after another with `gap` between them. -/
def joined (gap : String) (texts : List String) : String := gap.intercalate texts

end GpuDriver.Text
