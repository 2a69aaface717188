import GpuDriver.Text.Blank
import GpuDriver.Text.Pieces

/-!
# Kernels in CUDA source

A kernel is announced by the word `__global__`; its name is the identifier that ends just before the
next opening parenthesis. A name can only be cut out of the text if what stands before it is a
character of one octet: behind a longer one, the scan breaks off (`Torn`).
-/

namespace GpuDriver.Source

open Text

/-- The word that announces a kernel. -/
def marker : List Char := "__global__".toList

/-- The texts from each occurrence of `word` on, left to right, none inside another; the first `skip`
characters belong to an occurrence already found. -/
def occurrencesFrom (word : List Char) (skip : Nat) : List Char → List (List Char)
  | [] => []
  | c :: rest =>
    if skip ≠ 0 then occurrencesFrom word (skip - 1) rest
    else if word.isPrefixOf (c :: rest) then
      (c :: rest) :: occurrencesFrom word (word.length - 1) rest
    else occurrencesFrom word 0 rest

/-- The texts from each occurrence of `word` on, left to right, none inside another. -/
def occurrences (word cs : List Char) : List (List Char) := occurrencesFrom word 0 cs

/-- The scan for a kernel's name broke off inside a character. -/
inductive Torn
  /-- It broke off. -/
  | torn
deriving DecidableEq, Repr

/-- The character can stand in an identifier. -/
def isIdentifierChar (c : Char) : Bool := c.isAlphanum || c == '_'

/-- The identifier at the end of a text, if there is one. -/
def finalIdentifier (head : List Char) : Except Torn (Option String) :=
  let name := (head.reverse.takeWhile isIdentifierChar).reverse
  match (head.reverse.dropWhile isIdentifierChar).head? with
  | some c =>
    if c.utf8Size > 1 then .error .torn
    else .ok (if name.isEmpty then none else some (String.ofList name))
  | none => .ok (if name.isEmpty then none else some (String.ofList name))

/-- The name of the kernel that a text from the marker on announces, if a parenthesis follows. -/
def kernelName (announcement : List Char) : Except Torn (Option String) :=
  if announcement.contains '(' then
    finalIdentifier (trimEnd (firstPiece (· == '(') announcement))
  else .ok none

/-- The names of the kernels of a source, in order. -/
def kernelNames (source : String) : Except Torn (List String) :=
  ((occurrences marker source.toList).mapM kernelName).map fun names => names.filterMap id

/-- The text is an identifier. -/
def isIdentifier (name : String) : Bool :=
  match name.toList with
  | [] => false
  | c :: rest => (c.isAlpha || c == '_') && rest.all isIdentifierChar

end GpuDriver.Source
