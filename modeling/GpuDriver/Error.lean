import GpuDriver.FileTree
import GpuDriver.Nvrtc.Call
import GpuDriver.Status
import GpuDriver.Text.Quoted

/-!
# Errors

What the library fails with: a call that failed, with the driver's own texts for its status, or a cause
that never reached the driver. `message` is what the user is shown.
-/

namespace GpuDriver

/-- A call of the driver that failed. -/
structure CallError where
  /-- The status that the call came back with. -/
  status : Status
  /-- The symbolic name of the status. -/
  name : String
  /-- The description of the status. -/
  text : String
deriving DecidableEq, Repr

namespace CallError

/-- The error of a status with the names that the library itself knows. -/
def ofStatus (s : Status) : CallError := ⟨s, s.name, s.description⟩

/-- What the user is shown. -/
def message (e : CallError) : String := e.name ++ ": " ++ e.text

/-- A symbol was not found. -/
def isNotFound (e : CallError) : Bool := e.status = .notFound

end CallError

/-- Why something asked of the driver failed. -/
inductive Error
  /-- A call failed. -/
  | call (error : CallError)
  /-- The driver library cannot be opened. -/
  | libraryLoad (reason : String)
  /-- The driver library lacks an entry point. -/
  | missingSymbol (symbols : String)
  /-- A name holds a NUL. -/
  | invalidName (name : String)
  /-- A path is not text or holds a NUL. -/
  | invalidPath (path : Path)
deriving DecidableEq, Repr

/-- What the user is shown. -/
def Error.message : Error → String
  | call e => e.message
  | libraryLoad reason => "failed to load CUDA driver library: " ++ reason
  | missingSymbol symbols => "CUDA driver symbol " ++ symbols ++ " not found"
  | invalidName name => "name " ++ Text.quoted name ++ " contains an interior NUL byte"
  | invalidPath path => "path " ++ Path.display path ++ " cannot be passed to the driver"

namespace Nvrtc

/-- Why something asked of the runtime compiler failed. -/
inductive Error
  /-- A call failed with a code; the name is the compiler's own. -/
  | call (code : Code) (name : String)
  /-- The runtime compiler's library cannot be opened. -/
  | libraryLoad (reason : String)
  /-- The runtime compiler's library lacks an entry point. -/
  | missingSymbol (symbol : String)
  /-- A call broke off. -/
  | crash
deriving DecidableEq, Repr

namespace Error

/-- The error of a code with the name that the library itself knows. -/
def ofCode (c : Code) : Error := call c c.name

/-- What the user is shown. -/
def message : Error → String
  | call _ name => name
  | libraryLoad reason => "failed to load NVRTC library: " ++ reason
  | missingSymbol symbol => "NVRTC symbol " ++ symbol ++ " not found"
  | crash => "the runtime compiler broke off"

end Error

end Nvrtc

end GpuDriver
