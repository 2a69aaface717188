import GpuDriver.Image
import GpuDriver.Path

/-!
# Invocations

What a command line asks for, or how the program ends if it asks for nothing that can be done.
-/

namespace GpuDriver.CommandLine

/-- What the program is asked to do. -/
inductive Task
  /-- Lists the devices. -/
  | devices
  /-- Links images. -/
  | link (inputs : List Path) (out : Path) (kind : Option ImageKind)
  /-- Looks up symbols of a module. -/
  | symbols (module : Path) (functions globals : List String)
  /-- Compiles a source. -/
  | compile (source out : Path) (codeType : String) (nvrtc : Bool) (arch : Option String)
      (options : List String)
deriving DecidableEq, Repr

/-- The paths that a task names. -/
def Task.paths : Task → List Path
  | devices => []
  | link inputs out _ => inputs ++ [out]
  | symbols module .. => [module]
  | compile source out .. => [source, out]

/-- What a command line asks for. -/
structure Invocation where
  /-- The in-process driver and runtime compiler are used. -/
  mock : Bool
  /-- The ordinal of the device. -/
  device : Int
  /-- What is to be done. -/
  task : Task
deriving DecidableEq, Repr

/-- How the program ends if nothing is to be done: the command line is refused, or asks for a text. -/
structure Ending where
  /-- The exit code. -/
  code : Nat
  /-- What is written to standard output. -/
  output : Bytes := []
  /-- What is written to standard error. -/
  errors : Bytes := []
deriving DecidableEq, Repr

/-- A way to read the words of command lines. -/
abbrev Reader : Type := List Bytes → Except Ending Invocation

end GpuDriver.CommandLine
