import GpuDriver.Error
import GpuDriver.Image
import GpuDriver.Text.Pieces

/-!
# What compilation yields

Compiled code is PTX text or a cubin. A compilation that fails leaves everything that is needed to
repeat it: the compiler, its message, the source and the options. `Failure.dump` writes that out, with
the lines of the source numbered from one, all numbers equally wide.
-/

namespace GpuDriver.Compile

open Text

/-- What the command-line compiler is asked for. -/
inductive CodeType
  /-- Code for one architecture. -/
  | cubin
  /-- Assembly text. -/
  | ptx
deriving DecidableEq, Repr

/-- The name of a code type, which is also the extension of its files. -/
def CodeType.name : CodeType → String
  | cubin => "cubin"
  | ptx => "ptx"

/-- Compiled code. -/
inductive Code
  /-- Assembly text. -/
  | ptx (text : String)
  /-- Code for one architecture. -/
  | cubin (image : Bytes)
deriving DecidableEq, Repr

namespace Code

/-- What kind of image the code is. -/
def kind : Code → ImageKind
  | ptx _ => .ptx
  | cubin _ => .cubin

/-- The octets of the code. -/
def bytes : Code → Bytes
  | ptx text => Utf8.encode text
  | cubin image => image

end Code

/-- A compiler. -/
inductive Toolchain
  /-- The runtime compiler. -/
  | nvrtc
  /-- The command-line compiler. -/
  | nvcc
deriving DecidableEq, Repr

/-- How a compiler is shown. -/
def Toolchain.display : Toolchain → String
  | nvrtc => "NVRTC"
  | nvcc => "NVCC"

/-- A compilation that failed. -/
structure Failure where
  /-- The compiler. -/
  compiler : Toolchain
  /-- What it said. -/
  message : String
  /-- What it was given. -/
  source : String
  /-- What the source is called. -/
  name : String
  /-- The options that it was given. -/
  options : List String
deriving DecidableEq, Repr

namespace Failure

/-- The lines of the source, as they are numbered. -/
def sourceLines (f : Failure) : List (List Char) := pieces (· == '\n') f.source.toList

/-- A line of the source behind its number, without the blanks at its end. -/
def numberedLine (width number : Nat) (line : List Char) : String :=
  paddedDecimal width number ++ " " ++ String.ofList (trimEnd line)

/-- The lines of the source behind their numbers, counted from `number` on. -/
def numberedLines (width number : Nat) : List (List Char) → List String
  | [] => []
  | line :: rest => numberedLine width number line :: numberedLines width (number + 1) rest

/-- The lines of the dump. -/
def dumpLines (f : Failure) : List String :=
  [f.compiler.display ++ " compilation error: " ++ f.message, "-----", "Name: " ++ f.name,
    "Options: " ++ joined " " f.options, "CUDA source:"] ++
  numberedLines (decimal f.sourceLines.length).length 1 f.sourceLines ++ ["-----"]

/-- The dump: each line with a line feed. -/
def dump (f : Failure) : String := String.join (f.dumpLines.map (· ++ "\n"))

end Failure

/-! ### Writing into a sink -/

/-- A place that takes octets until it is full. -/
structure Sink where
  /-- How many octets it still takes; any number if there is no limit. -/
  room : Option Nat
  /-- What it has taken. -/
  accepted : Bytes := []
deriving DecidableEq, Repr

namespace Sink

/-- Writes octets; those that fit are taken, and it succeeds if all did. -/
def write (s : Sink) (b : Bytes) : Bool × Sink :=
  match s.room with
  | none => (true, { s with accepted := s.accepted ++ b })
  | some room =>
    (b.length ≤ room, ⟨some (room - b.length), s.accepted ++ b.take room⟩)

/-- Writes one row of octets after another, up to the first that does not fit. -/
def writeAll (s : Sink) : List Bytes → Bool × Sink
  | [] => (true, s)
  | b :: rest =>
    match s.write b with
    | (true, s) => writeAll s rest
    | (false, s) => (false, s)

end Sink

/-- Writes the dump of a failure into a sink, line by line. -/
def Failure.dumpInto (f : Failure) (s : Sink) : Bool × Sink :=
  s.writeAll (f.dumpLines.map fun line => Utf8.encode (line ++ "\n"))

/-! ### Errors -/

/-- Why there is no compiled code, or why it could not be loaded. -/
inductive Error
  /-- The compiler refused the source. -/
  | compile (failure : Failure)
  /-- The command-line compiler could not be started. -/
  | spawn (nvcc : Path) (error : IoError)
  /-- No code type has this name. -/
  | invalidCodeType (name : String)
  /-- The text is no name for a kernel. -/
  | invalidKernelName (name : String)
  /-- The compiler wrote PTX that is not text. -/
  | invalidPtx
  /-- The runtime compiler failed in another way. -/
  | nvrtc (error : Nvrtc.Error)
  /-- A file could not be read or written. -/
  | io (error : IoError)
  /-- The settings cannot be read. -/
  | settingsUnavailable
  /-- The driver failed. -/
  | driver (error : GpuDriver.Error)
deriving DecidableEq, Repr

/-- What the user is shown. -/
def Error.message : Error → String
  | compile failure => failure.message
  | spawn nvcc e =>
    "failed to run `" ++ Path.display nvcc ++ "`. Check PATH environment variable: " ++ e.message
  | invalidCodeType name => "code_type must be cubin or ptx, got " ++ quoted name
  | invalidKernelName name => "invalid kernel name " ++ quoted name
  | invalidPtx => "compiler produced non UTF-8 PTX"
  | nvrtc e => e.message
  | io e => "io error: " ++ e.message
  | settingsUnavailable => "driver config lock poisoned"
  | driver e => e.message

/-- The code type with a name. -/
def CodeType.parse : String → Except Error CodeType
  | "cubin" => .ok cubin
  | "ptx" => .ok ptx
  | other => .error (.invalidCodeType other)

end GpuDriver.Compile
