import GpuDriver.Device
import GpuDriver.Text.Utf8

/-!
# Calls of the runtime compiler

The runtime compiler keeps programs: a source with a name, and what the last compilation made of it.
Its calls fail with a code of its own, or, in a compiler that reads the source carelessly, by breaking
off without any code (`Fault.crash`).
-/

namespace GpuDriver.Nvrtc

/-- A result code of the runtime compiler. -/
structure Code where
  /-- The number that the compiler returned. -/
  value : Int
deriving DecidableEq, Repr

namespace Code

/-- The call did what was asked. -/
def success : Code := ⟨0⟩
/-- There is not enough memory left. -/
def outOfMemory : Code := ⟨1⟩
/-- The program could not be created. -/
def creationFailure : Code := ⟨2⟩
/-- The source or its name is invalid. -/
def invalidInput : Code := ⟨3⟩
/-- There is no such program, or it holds no result. -/
def invalidProgram : Code := ⟨4⟩
/-- An option is invalid. -/
def invalidOption : Code := ⟨5⟩
/-- The source has an error. -/
def compilation : Code := ⟨6⟩
/-- A built-in operation failed. -/
def builtinOperationFailure : Code := ⟨7⟩

/-- The codes with a name of their own. -/
def known : List (Code × String) := [
  (success, "NVRTC_SUCCESS"),
  (outOfMemory, "NVRTC_ERROR_OUT_OF_MEMORY"),
  (creationFailure, "NVRTC_ERROR_PROGRAM_CREATION_FAILURE"),
  (invalidInput, "NVRTC_ERROR_INVALID_INPUT"),
  (invalidProgram, "NVRTC_ERROR_INVALID_PROGRAM"),
  (invalidOption, "NVRTC_ERROR_INVALID_OPTION"),
  (compilation, "NVRTC_ERROR_COMPILATION"),
  (builtinOperationFailure, "NVRTC_ERROR_BUILTIN_OPERATION_FAILURE")]

/-- The symbolic name of a code. -/
def name (c : Code) : String := (known.lookup c).getD "NVRTC_ERROR unknown"

end Code

/-- Why a call failed. -/
inductive Fault
  /-- The compiler answered with this code. -/
  | code (code : Code)
  /-- The compiler broke off without an answer. -/
  | crash
deriving DecidableEq, Repr

/-- A call of the runtime compiler. -/
inductive Call
  /-- Asks for the compiler's version. -/
  | version
  /-- Asks for the architectures that it compiles for. -/
  | architectures
  /-- Creates a program. -/
  | create (source name : Bytes)
  /-- Destroys a program. -/
  | destroy (program : Handle)
  /-- Compiles a program. -/
  | compile (program : Handle) (options : List Bytes)
  /-- Asks for the result of a compilation. -/
  | ptx (program : Handle)
  /-- Asks for the log of a compilation. -/
  | log (program : Handle)
  /-- Asks for the name of a code. -/
  | errorText (code : Code)

/-- What a call is answered with when it succeeds. A compiler need not know its architectures, nor a
name for a code. -/
abbrev Call.Value : Call → Type
  | .version => Int × Int
  | .architectures => Option (List Int)
  | .create .. => Handle
  | .ptx _ => Bytes
  | .log _ => String
  | .errorText _ => Option String
  | .destroy _ | .compile .. => Unit

/-- The answer to a call. -/
abbrev Call.Reply (c : Call) : Type := Except Fault c.Value

end GpuDriver.Nvrtc
