import GpuDriver.Ptx.Comment
import GpuDriver.Text.Braces
import GpuDriver.Text.Numeral
import GpuDriver.Text.Pieces

/-!
# Symbols of a PTX text

What a loader has to know of a PTX text: whether it is a module at all, which kernels it defines, and
which variables of which sizes it declares outside of kernels. Comments count for nothing
(`withoutComments`); words stand between blanks, declarations between semicolons.
-/

namespace GpuDriver.Ptx

open Text

/-- The greatest size; larger ones are cut down to it. -/
def maxSize : Nat := wordBound - 1

/-- A variable that a module declares. -/
structure Global where
  /-- Its name. -/
  name : String
  /-- The octets that it takes. -/
  bytes : Nat
deriving DecidableEq, Repr

/-- What a module defines. -/
structure Symbols where
  /-- The names of the kernels, in order. -/
  entries : List String
  /-- The variables, in order. -/
  globals : List Global
deriving DecidableEq, Repr

/-! ### Modules -/

/-- The text is a module: it has a version and a target, and its braces are balanced. -/
def isModule (text : String) : Bool :=
  let body := withoutComments text.toList
  (words body).contains ".version".toList && (words body).contains ".target".toList &&
    balanced body

/-! ### Kernels -/

/-- The name of the kernel whose declaration goes on with `word`: what stands before its parameters,
if anything does. -/
def entryName? (word : List Char) : Option String :=
  let name := firstPiece (· == '(') word
  if name.isEmpty then none else some (String.ofList name)

/-- A declaration ends with this word. -/
def endsDeclaration (word : List Char) : Bool :=
  word.getLast? == some ';' || word.contains '\x7b' || word.contains '\x7d'

/-- The kernels that a row of words defines; `external` tells that the words stand in a declaration of
something that is defined elsewhere. -/
def entriesOf (external : Bool) : List (List Char) → List String
  | [] => []
  | word :: rest =>
    if word = ".extern".toList then entriesOf true rest
    else if word = ".entry".toList then
      (if external then [] else (rest.head?.bind entryName?).toList) ++ entriesOf false rest
    else if endsDeclaration word then entriesOf false rest
    else entriesOf external rest

/-! ### Variables -/

/-- The octets of the type that a word such as `.u32` names. -/
def typeSize? (word : List Char) : Option Nat :=
  match word with
  | '.' :: kind :: bits =>
    if kind = 'b' || kind = 'u' || kind = 's' || kind = 'f' then
      match natural? wordBound bits with
      | some 8 => some 1
      | some 16 => some 2
      | some 32 => some 4
      | some 64 => some 8
      | _ => none
    else none
  | _ => none

/-- The product, cut down to the greatest size. -/
def cappedProduct (m n : Nat) : Nat := min (m * n) maxSize

/-- The number in one pair of brackets; zero if there is none that fits a word. -/
def extentOf (dimension : List Char) : Nat :=
  (natural? wordBound (trim (trimEndWhile (· == ']') dimension))).getD 0

/-- How many elements a declarator such as `name[4][2]` declares. -/
def elementCount (declarator : List Char) : Nat :=
  ((pieces (· == '[') declarator).tail.map extentOf).foldl cappedProduct 1

/-- The variable that a declaration declares, if it declares one here. -/
def globalOf? (declaration : List Char) : Option Global :=
  let ws := words declaration
  if (ws.contains ".global".toList || ws.contains ".const".toList) &&
      !ws.contains ".extern".toList then
    match ws.getLast? with
    | some declarator =>
      if declarator.head? = some '.' then none
      else some {
        name := String.ofList (firstPiece (· == '[') declarator)
        bytes := cappedProduct ((ws.findSome? typeSize?).getD 1) (elementCount declarator) }
    | none => none
  else none

/-- The declaration in what stands between two semicolons: without the initial value, and without the
kernels in front of it. -/
def declarationIn (chunk : List Char) : List Char :=
  lastPiece (fun c => c == '\x7b' || c == '\x7d') (firstPiece (· == '=') chunk)

/-- The variables that a text without comments declares. -/
def globalsOf (body : List Char) : List Global :=
  (pieces (· == ';') body).filterMap fun chunk => globalOf? (declarationIn chunk)

/-- What a text defines. -/
def symbols (text : String) : Symbols :=
  let body := withoutComments text.toList
  { entries := entriesOf false (words body), globals := globalsOf body }

end GpuDriver.Ptx
