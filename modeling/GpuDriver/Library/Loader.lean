import GpuDriver.Error
import GpuDriver.Library.EntryPoint
import GpuDriver.Library.Search
import GpuDriver.Settings

/-!
# Opening the vendor's libraries

A library is opened at the first of its candidate paths that can be opened, and every entry point is
bound at once: to the preferred symbol if the library exports it, else to the next one, with a warning.
A library without one of the required entry points is refused and no further candidate is tried.
-/

namespace GpuDriver.Library

/-- The symbols that a library exports. -/
abbrev Exports : Type := List String

/-- Opens the library at a path: its symbols, or the system's refusal. -/
abbrev Opener : Type := Path → Except String Exports

/-- Opens libraries on a system that has the given ones and those in its files; names without a slash
are also looked for in the directories `search`. An empty path stands for the program itself; neither
that nor a library among the files exports anything that is looked up. -/
def systemOpener (libraries : List (Path × Exports)) (search : List Path) (files : FileTree) :
    Opener := fun path =>
  if path.contains 0 then .error "could not create a C string from bytes"
  else if path.isEmpty then .ok []
  else match libraries.lookup path with
    | some exports => .ok exports
    | none => (load files search path).map fun _ => []

/-! ### Binding the driver library -/

/-- What a driver library was bound to. -/
structure DriverBinding where
  /-- The symbol of each entry point. -/
  symbol : DriverEntry → String
  /-- The library names statuses. -/
  namesErrors : Bool
  /-- The library describes statuses. -/
  describesErrors : Bool

namespace DriverBinding

/-- The symbol of a row that is bound: the first that the library exports. -/
def chosen? (exports : Exports) (row : List String) : Option String := row.find? exports.contains

/-- The warning about a symbol that is not the preferred one of its row. -/
def fallbackWarning? (row : List String) (symbol : String) : Option String :=
  if row.head? = some symbol then none
  else some ("falling back to unversioned symbol " ++ symbol)

/-- Binds entry points in order, each to a symbol of the next row; and the warnings of that. The first
one that cannot be bound ends it. Where no row is left there are no symbols. -/
def bindRows (exports : Exports) : List DriverEntry → List (List String) →
    Except Error (List (DriverEntry × String)) × List String
  | [], _ => (.ok [], [])
  | e :: entries, rows =>
    let row := rows.headD []
    match chosen? exports row with
    | none => (.error (.missingSymbol (Text.joined "/" row)), [])
    | some symbol =>
      let (bound, warnings) := bindRows exports entries rows.tail
      (bound.map ((e, symbol) :: ·), (fallbackWarning? row symbol).toList ++ warnings)

/-- The binding of a library whose entry points were bound. -/
def ofBound (exports : Exports) (bound : List (DriverEntry × String)) : DriverBinding where
  symbol e := (bound.lookup e).getD ""
  namesErrors := exports.contains errorNameSymbol
  describesErrors := exports.contains errorTextSymbol

/-- Binds the symbols of a library; and the warnings of that. -/
def ofExports (exports : Exports) : Except Error DriverBinding × List String :=
  let (bound, warnings) := bindRows exports DriverEntry.all DriverEntry.rows
  (bound.map (ofBound exports), warnings)

end DriverBinding

/-! ### Binding the runtime compiler's library -/

/-- What a runtime compiler's library has beyond what it must have. -/
structure NvrtcBinding where
  /-- The library names codes. -/
  namesCodes : Bool
  /-- The library tells its architectures. -/
  tellsArchitectures : Bool

/-- Binds the symbols of a library. -/
def NvrtcBinding.ofExports (exports : Exports) : Except Nvrtc.Error NvrtcBinding :=
  match NvrtcEntry.all.find? fun e => !exports.contains e.symbol with
  | some e => .error (.missingSymbol e.symbol)
  | none => .ok {
      namesCodes := exports.contains codeNameSymbol
      tellsArchitectures :=
        exports.contains architectureCountSymbol && exports.contains architectureListSymbol }

/-! ### Opening -/

/-- The exports of the first candidate that can be opened; otherwise what was said of the last one, or
`reason` if there is none. -/
def firstOpened (opener : Opener) (reason : String) : List Path → Except String Exports
  | [] => .error reason
  | path :: rest =>
    match opener path with
    | .ok exports => .ok exports
    | .error e => firstOpened opener (Path.display path ++ ": " ++ e) rest

/-- What is said when there is no candidate. -/
def noCandidates : String := "no candidate library names"

/-- Opens the driver library at a path; and the warnings of that. -/
def openDriverAt (opener : Opener) (path : Path) : Except Error DriverBinding × List String :=
  match opener path with
  | .error e => (.error (.libraryLoad e), [])
  | .ok exports => DriverBinding.ofExports exports

/-- Opens the driver library at the first candidate that can be opened; and the warnings of that. -/
def openDriver (opener : Opener) (candidates : List Path) :
    Except Error DriverBinding × List String :=
  match firstOpened opener noCandidates candidates with
  | .error e => (.error (.libraryLoad e), ["CUDA driver library not found: " ++ e])
  | .ok exports => DriverBinding.ofExports exports

/-- Opens the runtime compiler's library at a path. -/
def openNvrtcAt (opener : Opener) (path : Path) : Except Nvrtc.Error NvrtcBinding :=
  match opener path with
  | .error e => .error (.libraryLoad e)
  | .ok exports => NvrtcBinding.ofExports exports

/-- Opens the runtime compiler's library at the first candidate that can be opened; and the warnings
of that. -/
def openNvrtc (opener : Opener) (candidates : List Path) :
    Except Nvrtc.Error NvrtcBinding × List String :=
  match firstOpened opener noCandidates candidates with
  | .error e => (.error (.libraryLoad e), ["NVRTC library not found: " ++ e])
  | .ok exports => (NvrtcBinding.ofExports exports, [])

end GpuDriver.Library
