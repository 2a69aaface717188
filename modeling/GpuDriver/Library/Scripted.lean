import GpuDriver.Library.Native
import GpuDriver.Table

/-!
# A scripted library

A library that does what a script says: for each symbol the code to return and the results to write. It
keeps a log with one line for each call.
-/

namespace GpuDriver.Library

/-- What a script says of a symbol. -/
structure ScriptEntry where
  /-- The code to return. -/
  code : Int := 0
  /-- The numbers to write. -/
  values : List Int := []
  /-- The octets to write or to point at. -/
  data : Option Bytes := none
deriving DecidableEq, Repr

/-- A scripted library. -/
structure Scripted where
  /-- What the script says of each symbol. -/
  script : Table String ScriptEntry := .empty
  /-- The calls, oldest first. -/
  calls : List NativeCall := []

namespace Scripted

/-- The value that a list of keys and values gives a key. -/
def valueFor? (key : Int) : List Int → Option Int
  | k :: v :: rest => if k = key then some v else valueFor? key rest
  | _ => none

/-- The reply that the script prescribes. A function that has a key among its arguments finds its result
under that key. -/
def reply (e : ScriptEntry) (call : NativeCall) : NativeReply :=
  if e.code = 0 && call.symbol = "cuDeviceGetAttribute" then
    match call.arguments with
    | .number key :: _ => ⟨0, (valueFor? key e.values).toList, e.data⟩
    | _ => ⟨0, [], e.data⟩
  else ⟨e.code, e.values, e.data⟩

/-- The library's reply to a call. -/
def native : Native Scripted := fun call s =>
  (reply ((s.script.get? call.symbol).getD {}) call, { s with calls := s.calls ++ [call] })

/-- The library with entries of its script replaced. -/
def amend (s : Scripted) (entries : List (String × ScriptEntry)) : Scripted :=
  { s with script := entries.foldl (fun script e => script.insert e.1 e.2) s.script }

end Scripted

/-! ### The log -/

/-- The octets that an option list announces: as many as the last size says, from the last buffer. -/
def announced (buffer : Bytes) (size : Nat) : List OptionWord → Bytes
  | key :: value :: rest =>
    if key.isNull then buffer.take size
    else if key = .bufferKey then
      announced (match value with | .buffer b => b | _ => []) size rest
    else if key = .sizeKey then announced buffer value.pointee rest
    else announced buffer size rest
  | _ => buffer.take size

/-- How an argument is shown in the log. -/
def Argument.line : Argument → String
  | number k => Text.signedDecimal k
  | octets b => Utf8.hex b
  | null => "null"
  | parameters _ => "params"
  | options words => "extra:" ++ Utf8.hex (announced [] 0 words)

/-- The line of a call in the log. -/
def NativeCall.line (call : NativeCall) : String :=
  Text.joined " " (call.symbol :: call.arguments.map Argument.line)

end GpuDriver.Library
