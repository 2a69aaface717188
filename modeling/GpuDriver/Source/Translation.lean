import GpuDriver.Source.Kernel
import GpuDriver.Source.Scalar
import GpuDriver.Text.Braces
import GpuDriver.Text.Numeral

/-!
# Translating CUDA source to PTX

The translation keeps what a loader has to know: one empty kernel for each kernel of the source and one
variable for each device variable. A source with an `#error` directive, or with braces that are not
balanced, has a flaw and is not translated.
-/

namespace GpuDriver.Source

open Text

/-- Why a source cannot be translated. -/
inductive Flaw
  /-- The line with this number, counted from one, is an `#error` directive with this text. -/
  | directive (line : Nat) (text : String)
  /-- The braces are not balanced; the source has this many lines. -/
  | unbalanced (lastLine : Nat)
deriving DecidableEq, Repr

/-- The first `#error` directive among numbered lines. -/
def directiveIn? (number : Nat) : List (List Char) → Option Flaw
  | [] => none
  | line :: rest =>
    match after? "#error".toList (trim line) with
    | some text => some (.directive number (String.ofList (trim text)))
    | none => directiveIn? (number + 1) rest

/-- The flaw of a source, if it has one. -/
def flaw? (source : String) : Option Flaw :=
  match directiveIn? 1 (lines source.toList) with
  | some flaw => some flaw
  | none =>
    if balanced source.toList then none else some (.unbalanced (lines source.toList).length)

/-- The log that a compiler keeps of a flaw in the source of the given name. -/
def Flaw.log (name : String) (flaw : Flaw) : String :=
  (match flaw with
    | .directive line text =>
      name ++ "(" ++ decimal line ++ "): error: #error directive: " ++ text ++ "\n"
    | .unbalanced line => name ++ "(" ++ decimal line ++ "): error: expected a \"\x7d\"\n") ++
  "\n1 error detected in the compilation of \"" ++ name ++ "\".\n"

/-- What stands at the head of a translation for an architecture. -/
def header (arch : Int) : String :=
  "//\n// Generated by mock NVRTC\n//\n\n.version 7.0\n.target sm_" ++ signedDecimal arch ++
    "\n.address_size 64\n\n"

/-- The declaration of a variable. -/
def DeviceScalar.declaration (s : DeviceScalar) : String :=
  ".visible .global .align " ++ decimal s.type.bytes ++ " " ++ s.type.directive ++ " " ++ s.name ++
    ";\n"

/-- The definition of a kernel. -/
def kernelDefinition (name : String) : String :=
  "\n.visible .entry " ++ name ++ "()\n\x7b\n\tret;\n\x7d\n"

/-- The PTX text of variables and kernels. -/
def assembly (arch : Int) (scalars : List DeviceScalar) (kernels : List String) : String :=
  header arch ++ joined "" (scalars.map DeviceScalar.declaration) ++
    joined "" (kernels.map kernelDefinition)

/-- Why there is no translation. -/
inductive Refusal
  /-- The source has a flaw. -/
  | flaw (flaw : Flaw)
  /-- The scan for the kernels broke off. -/
  | torn
deriving DecidableEq, Repr

/-- The PTX text of a source for an architecture. -/
def translate (source : String) (arch : Int) : Except Refusal String :=
  match flaw? source with
  | some flaw => .error (.flaw flaw)
  | none =>
    match kernelNames source with
    | .error .torn => .error .torn
    | .ok kernels => .ok (assembly arch (deviceScalars source) kernels)

end GpuDriver.Source
