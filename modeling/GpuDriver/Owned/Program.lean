import GpuDriver.Platform

/-!
# Owned programs of the runtime compiler

A program is a source that the runtime compiler has been given; it is destroyed when it is dropped.
Sources, names and options must not hold a NUL: one that does is refused before the compiler is asked.
-/

namespace GpuDriver

variable {σ : Type} (p : Platform σ)

namespace Nvrtc

/-- The compiler's version. -/
def version : Act σ Error (Int × Int) := p.callNvrtc .version

/-- The greatest number of a list. -/
def greatest? : List Int → Option Int
  | [] => none
  | k :: rest => some (rest.foldl max k)

/-- The newest architecture that the compiler compiles for. One that does not tell, or tells of none,
goes up to 50 before its version 9 and up to 70 from then on. -/
def maxArchitecture : Act σ Error Int := do
  let known ← p.callNvrtc .architectures
  match known.bind greatest? with
  | some arch => return arch
  | none =>
    let (major, _) ← version p
    return if major < 9 then 50 else 70

/-- The octets of a text without a NUL; an error of the given code if it holds one. -/
def octets (code : Code) (text : String) : Except Error Bytes :=
  if text.toList.contains '\x00' then .error (.ofCode code) else .ok (Utf8.encode text)

end Nvrtc

namespace Owned

open Nvrtc

/-- A program that is destroyed when it is dropped. -/
structure Program where
  /-- The compiler's handle. -/
  handle : Handle
  /-- What the source is called. -/
  name : String
deriving DecidableEq, Repr

namespace Program

/-- Creates a program. -/
def create (source name : String) : Act σ Nvrtc.Error Program := do
  let sourceOctets ← Act.ofExcept (octets .invalidInput source)
  let nameOctets ← Act.ofExcept (octets .invalidInput name)
  let handle ← p.callNvrtc (.create sourceOctets nameOctets)
  return ⟨handle, name⟩

/-- Compiles the program. -/
def compile (program : Program) (options : List String) : Act σ Nvrtc.Error Unit := do
  let octets ← Act.ofExcept (options.mapM (octets .invalidOption))
  p.callNvrtc (.compile program.handle octets)

/-- The result of the last compilation. -/
def ptx (program : Program) : Act σ Nvrtc.Error Bytes := p.callNvrtc (.ptx program.handle)

/-- The log of the last compilation. -/
def log (program : Program) : Act σ Nvrtc.Error String := p.callNvrtc (.log program.handle)

/-- The world after the program was dropped. -/
def drop (program : Program) (w : World σ) : World σ :=
  match p.callNvrtc (.destroy program.handle) w with
  | (.ok (), w) => w
  | (.error e, w) =>
    w.warn ("failed to destroy NVRTC program " ++ Text.hexLiteral program.handle ++ ": " ++
      e.message)

end Program

end Owned

end GpuDriver
