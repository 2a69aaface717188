import GpuDriver.Text.Blank
import GpuDriver.Text.Pieces

/-!
# Device variables in CUDA source

A line of the form `__device__ <type> <name>;` with the type of a scalar declares a device variable.
-/

namespace GpuDriver.Source

open Text

/-- The types of scalars as PTX names them. -/
inductive ScalarType
  /-- An octet. -/
  | b8
  /-- A signed word of 32 bits. -/
  | s32
  /-- An unsigned word of 32 bits. -/
  | u32
  /-- A float of 32 bits. -/
  | f32
  /-- A signed word of 64 bits. -/
  | s64
  /-- An unsigned word of 64 bits. -/
  | u64
  /-- A float of 64 bits. -/
  | f64
deriving DecidableEq, Repr

namespace ScalarType

/-- The name of a type in PTX. -/
def directive : ScalarType → String
  | b8 => ".b8"
  | s32 => ".s32"
  | u32 => ".u32"
  | f32 => ".f32"
  | s64 => ".s64"
  | u64 => ".u64"
  | f64 => ".f64"

/-- The octets of a value. -/
def bytes : ScalarType → Nat
  | b8 => 1
  | s32 | u32 | f32 => 4
  | s64 | u64 | f64 => 8

/-- The type that the source names by a text. -/
def ofName? : String → Option ScalarType
  | "int" | "signed int" => some s32
  | "unsigned" | "unsigned int" => some u32
  | "float" => some f32
  | "double" => some f64
  | "long long" => some s64
  | "unsigned long long" => some u64
  | "char" | "unsigned char" => some b8
  | _ => none

end ScalarType

/-- A device variable of a source. -/
structure DeviceScalar where
  /-- Its name. -/
  name : String
  /-- Its type. -/
  type : ScalarType
deriving DecidableEq, Repr

/-- The variable that the words between `__device__` and the semicolon declare. -/
def scalarOf? (ws : List (List Char)) : Option DeviceScalar := do
  let name ← ws.getLast?
  let type ← ScalarType.ofName? (joined " " (ws.dropLast.map String.ofList))
  return ⟨String.ofList name, type⟩

/-- The variable that a line declares. -/
def scalarIn? (line : List Char) : Option DeviceScalar := do
  let declaration ← after? "__device__".toList (trim line)
  let declaration ← before? ";".toList (trim declaration)
  if declaration.contains '(' || declaration.contains '=' then none
  else scalarOf? (words declaration)

/-- The device variables of a source, in order. -/
def deviceScalars (source : String) : List DeviceScalar :=
  (lines source.toList).filterMap scalarIn?

end GpuDriver.Source
