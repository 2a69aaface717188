import GpuDriver.Text.Pieces
import GpuDriver.Text.Utf8

/-!
# Paths

A path is a row of components with slashes between them; one that begins with a slash starts at the
root. Nothing here looks at the file system.
-/

namespace GpuDriver.Path

/-- The octet between components. -/
def slash : UInt8 := 0x2F

/-- The octet that stands between a file's name and its extension. -/
def dot : UInt8 := 0x2E

/-- How many octets a path may have. -/
def lengthLimit : Nat := 4095

/-- How many octets a component may have. -/
def componentLimit : Nat := 255

/-- The components, empty ones included. -/
def components (p : Path) : List Bytes := Text.pieces (· == slash) p

/-- The path starts at the root. -/
def isAbsolute (p : Path) : Bool := p.head? == some slash

/-- The path `p` seen from the directory `base`; a path from the root stays what it is. -/
def join (base p : Path) : Path :=
  if isAbsolute p then p
  else if base.isEmpty || base.getLast? == some slash then base ++ p
  else base ++ slash :: p

/-- The path without the slashes at its end. -/
def withoutFinalSlash (p : Path) : Path := (p.reverse.dropWhile (· == slash)).reverse

/-- The path of a directory without needless slashes at its end. -/
def asDirectory (p : Path) : Path :=
  if isAbsolute p && (withoutFinalSlash p).isEmpty then [slash] else withoutFinalSlash p

/-- The component that names the file, if the path does not end at a directory by itself. -/
def fileName? (p : Path) : Option Bytes :=
  ((components p).reverse.dropWhile fun c => c.isEmpty || c == [dot]).head?.filter (· != [dot, dot])

/-- What follows the last dot of the file's name, unless nothing but that dot begins the name. -/
def extension? (p : Path) : Option Bytes := do
  let name ← fileName? p
  if name.contains dot && (Text.lastPiece (· == dot) name).length + 1 < name.length then
    some (Text.lastPiece (· == dot) name)
  else none

/-- How a path is shown. -/
def display (p : Path) : String := Utf8.decodeLossy p

end GpuDriver.Path
