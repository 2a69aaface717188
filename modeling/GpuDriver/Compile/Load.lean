import GpuDriver.Compile.Architecture
import GpuDriver.Compile.WithNvcc
import GpuDriver.Compile.WithNvrtc
import GpuDriver.Owned.LinkSession
import GpuDriver.Owned.Module

/-!
# Compiling and loading

A source is compiled and loaded into the current context. PTX is linked first; a cubin is loaded as it
is.
-/

namespace GpuDriver.Compile

open Owned

variable {σ : Type} (p : Platform σ) (t : ThreadId)

/-- The compiler that is used. -/
inductive Compiler
  /-- The runtime compiler, which makes PTX. -/
  | nvrtc
  /-- The command-line compiler, which makes what it is asked for. -/
  | nvcc (type : CodeType)
deriving DecidableEq, Repr

/-- Compiles a source with either compiler. -/
def compile (source : String) (options : List String) (arch filename : String) :
    Compiler → Act σ Error Code
  | .nvrtc => do
    let text ← withNvrtc p source options arch filename
    return .ptx text
  | .nvcc type => withNvcc p source options arch filename type

/-- The image that is loaded for compiled code. -/
def imageOf : Code → Act σ Error Bytes
  | .ptx text => (linkPtx p t text "kern.ptx").mapError .driver
  | .cubin image => return image

/-- Compiles a source and loads the result. Without an architecture it is compiled for the default
one. -/
def compileAndLoad (source : String) (options : List String) (arch : Option String)
    (compiler : Compiler) : Act σ Error Module := do
  let arch ← match arch with
    | some arch => pure arch
    | none => defaultArchitecture p t (compiler = .nvrtc)
  let code ← compile p source options arch "kern.cu" compiler
  let image ← imageOf p t code
  (Module.loadData p t image).mapError fun e => .driver (.call e)

end GpuDriver.Compile
