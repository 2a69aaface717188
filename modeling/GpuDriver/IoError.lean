import GpuDriver.Text.Numeral

/-!
# Refusals of the operating system

Why the operating system does not do what it is asked for. A refusal of its own has a number, which is
told behind the reason; one that is found before the system is asked has none.
-/

namespace GpuDriver

/-- Why the operating system refuses something. -/
inductive IoError
  /-- Nothing has this path. -/
  | notFound
  /-- The arguments of a command take too much room. -/
  | argumentsTooLong
  /-- It is not allowed. -/
  | permissionDenied
  /-- Something has this path already. -/
  | alreadyExists
  /-- A component that is not the last one is a file. -/
  | notADirectory
  /-- The path leads to a directory. -/
  | isADirectory
  /-- A number is out of range. -/
  | invalid
  /-- There is no room left. -/
  | noSpace
  /-- A component is too long. -/
  | nameTooLong
  /-- The path holds a NUL. -/
  | nulInPath
  /-- An argument of a command holds a NUL. -/
  | nulInArgument
  /-- A file that should hold text does not. -/
  | notText
  /-- Another refusal, with its text. -/
  | other (text : String)
deriving DecidableEq, Repr

namespace IoError

/-- What is wrong. -/
def reason : IoError → String
  | notFound => "No such file or directory"
  | argumentsTooLong => "Argument list too long"
  | permissionDenied => "Permission denied"
  | alreadyExists => "File exists"
  | notADirectory => "Not a directory"
  | isADirectory => "Is a directory"
  | invalid => "Invalid argument"
  | noSpace => "No space left on device"
  | nameTooLong => "File name too long"
  | nulInPath => "file name contained an unexpected NUL byte"
  | nulInArgument => "nul byte found in provided data"
  | notText => "stream did not contain valid UTF-8"
  | other text => text

/-- The number by which the operating system knows a refusal of its own. -/
def number? : IoError → Option Nat
  | notFound => some 2
  | argumentsTooLong => some 7
  | permissionDenied => some 13
  | alreadyExists => some 17
  | notADirectory => some 20
  | isADirectory => some 21
  | invalid => some 22
  | noSpace => some 28
  | nameTooLong => some 36
  | _ => none

/-- The text of a refusal. -/
def message (e : IoError) : String :=
  match e.number? with
  | some n => e.reason ++ " (os error " ++ Text.decimal n ++ ")"
  | none => e.reason

end IoError

end GpuDriver
