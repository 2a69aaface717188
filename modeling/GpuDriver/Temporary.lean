import GpuDriver.FileTree
import GpuDriver.Text.Numeral

/-!
# Directories with a number

A way to make directories for a time. They are numbered, and each gets the least number that is free in
the directory that it is made in.
-/

namespace GpuDriver.FileTree

/-- The name of the temporary directory with a number. -/
def temporaryName (n : Nat) : Bytes := Utf8.encode (".tmp" ++ Text.paddedDecimal 6 n)

/-- The place has a name: something is there, or it stands for another place. -/
def isTaken (t : FileTree) (place : Place) : Bool := (t.at? place).isSome || t.links.contains place

/-- The first number from `n` on whose temporary directory is not yet in `parent`, if one of the next
`tries` is free. -/
def freeNumber (t : FileTree) (parent : Place) (n : Nat) : Nat → Option Nat
  | 0 => none
  | tries + 1 =>
    if t.isTaken (parent ++ [temporaryName n]) then freeNumber t parent (n + 1) tries
    else some n

/-- Makes the directory with the least free number in the directory at the path `parent`; its path. -/
def makeNumbered (parent : Path) (t : FileTree) : Except IoError (Path × FileTree) :=
  match t.locate parent with
  | .error e => .error e
  | .ok (_, none) => .error .notFound
  | .ok (place, some .directory) =>
    match t.freeNumber place 0 (t.nodes.size + t.links.size + 1) with
    | none => .error (.other "too many temporary files exist")
    | some n =>
      .ok (Path.join parent (temporaryName n), t.put (place ++ [temporaryName n]) .directory)
  | .ok (_, some _) => .error .notADirectory

end GpuDriver.FileTree
