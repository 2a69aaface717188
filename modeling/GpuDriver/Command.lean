import GpuDriver.FileTree

/-!
# Commands

A command names a program, its arguments and the directory that it is run in. Paths are seen from that
directory. A program that is named without a slash is looked for in one directory after the other; a
program that may not be run is told only if none that may be run is found. Arguments that take too much
room are refused when the program has been found.
-/

namespace GpuDriver

/-- A command to be run. -/
structure Command where
  /-- The program. -/
  program : Path
  /-- Its arguments. -/
  arguments : List Bytes
  /-- Where it is run. -/
  directory : Path
  /-- Where a program that is named without a slash is looked for. -/
  search : List Path := []
deriving DecidableEq, Repr

/-- How a command ended. -/
inductive ExitStatus
  /-- It ended by itself with this number. -/
  | exited (code : Int)
  /-- It was ended by a signal. -/
  | signalled
deriving DecidableEq, Repr

/-- How the end of a command is shown. -/
def ExitStatus.display : ExitStatus → String
  | exited code => Text.signedDecimal code
  | signalled => "signal"

/-- What is left of a command that has ended. -/
structure Finished where
  /-- How it ended. -/
  status : ExitStatus
  /-- What it wrote to standard output. -/
  output : Bytes
  /-- What it wrote to standard error. -/
  errors : Bytes
deriving DecidableEq, Repr

/-- A program, as what it makes of a command and the files. -/
abbrev Executable : Type := Command → FileTree → Finished × FileTree

namespace Command

variable (c : Command)

/-- A part of the command holds a NUL. -/
def holdsNul : Bool := (c.program :: c.directory :: c.arguments).any (·.contains 0)

/-! ### Finding the program -/

/-- The paths at which the program is looked for. -/
def candidates : List Path :=
  if c.program.contains Path.slash then [c.program] else c.search.map (Path.join · c.program)

/-- The program at a path. What is there and is no program may not be run. -/
def programAt (programs : Place → Option Executable) (files : FileTree) (p : Path) :
    Except IoError Executable :=
  match files.locate p with
  | .error e => .error e
  | .ok (_, none) => .error .notFound
  | .ok (place, some _) =>
    match programs place with
    | some program => .ok program
    | none => .error .permissionDenied

/-- A refusal after which the search goes on. -/
def isPassedOver (e : IoError) : Bool := [.notFound, .notADirectory, .permissionDenied].contains e

/-- The first program at one of the paths. `refused` tells that something may not be run. -/
def firstProgram (programs : Place → Option Executable) (files : FileTree) (refused : Bool)
    (last : IoError) : List Path → Except IoError Executable
  | [] => .error (if refused then .permissionDenied else last)
  | p :: rest =>
    match programAt programs files p with
    | .ok program => .ok program
    | .error e =>
      if isPassedOver e then
        firstProgram programs files (refused || e == .permissionDenied) e rest
      else .error e

/-- The program of the command. -/
def find (programs : Place → Option Executable) (files : FileTree) : Except IoError Executable :=
  if c.program.isEmpty then .error .notFound
  else if !c.program.contains Path.slash && c.program.length > Path.componentLimit then
    .error .nameTooLong
  else firstProgram programs files false .notFound c.candidates

/-! ### Room for the arguments -/

/-- The octets that an argument may have. -/
def argumentLimit : Nat := 0x1FFFF

/-- The octets that all arguments may have, with an end and an address for each. -/
def argumentsLimit : Nat := 0x200000

/-- The arguments take too much room. -/
def isTooLong : Bool :=
  let all := c.program :: c.arguments
  all.any (fun a => a.length > argumentLimit) ||
    all.foldl (fun taken a => taken + (a.length + 9)) 0 > argumentsLimit

/-! ### Running -/

/-- Runs the command on a system with the given programs. -/
def run (programs : Place → Option Executable) (files : FileTree) :
    Except IoError (Finished × FileTree) := do
  let seen ← files.seenFrom c.directory
  let program ← c.find programs seen
  if c.isTooLong then .error .argumentsTooLong else .ok (program c files)

end Command

end GpuDriver
