import GpuDriver.FileTree
import GpuDriver.Library.ObjectFile

/-!
# Finding libraries

Which file a library's name stands for. A name with a slash is a path, in which the system's library
directory has a short form. Any other name is looked for first among the libraries that every program
has loaded, then in directories, those that the user names before those of the system. What cannot be
opened or is for other machines is passed over; a file with any other fault ends the search.
-/

namespace GpuDriver.Library

/-! ### Short forms -/

/-- The short form of the system's library directory. -/
def directoryToken : Bytes := Utf8.encode "LIB"

/-- What the short form stands for. -/
def directoryName : Bytes := Utf8.encode "lib/x86_64-linux-gnu"

/-- The octet that a short form begins with. -/
def dollar : UInt8 := 0x24

/-- An octet that can be part of the name of a short form. -/
def isNameOctet (b : UInt8) : Bool := b == 0x5F || (Char.ofNat b.toNat).isAlphanum && b < 0x80

/-- What follows the name of the short form, if it stands there, in braces or by itself. -/
def afterToken? (p : Path) : Option Path :=
  if (0x7B :: directoryToken ++ [0x7D]).isPrefixOf p then some (p.drop (directoryToken.length + 2))
  else if directoryToken.isPrefixOf p &&
      !((p.drop directoryToken.length).head?.any isNameOctet) then
    some (p.drop directoryToken.length)
  else none

/-- At most `n` octets of a path with the short form written out. -/
def expandFirst : Nat → Path → Path
  | 0, p => p
  | _, [] => []
  | n + 1, b :: rest =>
    match if b == dollar then afterToken? rest else none with
    | some rest => directoryName ++ expandFirst n rest
    | none => b :: expandFirst n rest

/-- A path with the short form written out. -/
def expand (p : Path) : Path := expandFirst p.length p

/-! ### Places -/

/-- Libraries that every program has loaded when it starts. -/
def loadedNames : List Path :=
  ["libc.so.6", "libgcc_s.so.1", "ld-linux-x86-64.so.2", "linux-vdso.so.1"].map Utf8.encode

/-- The directories that the system keeps libraries in. -/
def systemDirectories : List Path :=
  ["/lib/x86_64-linux-gnu", "/usr/lib/x86_64-linux-gnu", "/lib", "/usr/lib"].map Utf8.encode

/-- The paths at which a library is looked for, in order, if the user names the directories `search`. -/
def places (search : List Path) (name : Path) : List Path :=
  if name.contains Path.slash then [expand name]
  else (search.map expand ++ systemDirectories).map (Path.join · name)

/-! ### Opening -/

/-- What is wrong with a sink that is opened as a library: there are zeros in it or nothing. -/
def sinkFault : Sink → LoadFault
  | .zero | .full => .noObject
  | _ => .tooShort

/-- Why the file at a path cannot be loaded. -/
def fault? (files : FileTree) (p : Path) : Option LoadFault :=
  match files.locate p with
  | .error e => some (.unopened e)
  | .ok (_, none) => some (.unopened .notFound)
  | .ok (_, some .directory) => some (.unread .isADirectory)
  | .ok (_, some (.sink s)) => some (sinkFault s)
  | .ok (_, some (.file contents)) => ObjectFile.fault? contents

/-- The outcome of a search: nothing if a file can be loaded, else what is wrong, and with which file
if one was found. An object of another width that was passed over is remembered as what is `wrong`. -/
def tryPlaces (files : FileTree) (wrong : LoadFault) :
    List Path → Except (Option Path × LoadFault) Unit
  | [] => .error (none, wrong)
  | p :: rest =>
    match fault? files p with
    | none => .ok ()
    | some .otherWidth => tryPlaces files .otherWidth rest
    | some (.unopened e) => tryPlaces files (if wrong = .otherWidth then wrong else .unopened e) rest
    | some other => .error (some p, other)

/-- Loads a library of the given name; or what the system says. It names the file that it found, or
else what it was asked for. -/
def load (files : FileTree) (search : List Path) (name : Path) : Except String Unit :=
  if loadedNames.contains name then .ok ()
  else match tryPlaces files (.unopened .notFound) (places search name) with
    | .ok () => .ok ()
    | .error (found, fault) => .error (Path.display (found.getD name) ++ ": " ++ fault.message)

end GpuDriver.Library
