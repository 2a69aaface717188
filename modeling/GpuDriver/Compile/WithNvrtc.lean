import GpuDriver.Compile.Report
import GpuDriver.Owned.Program

/-!
# Compiling with the runtime compiler

The source becomes a program of the runtime compiler, which is gone when this is over, whatever came of
it. If the compiler refuses the source, its log is the message, or the name of its code where the log is
blank.
-/

namespace GpuDriver.Compile

open Owned

variable {σ : Type} (p : Platform σ)

/-- The options that the runtime compiler is given. -/
def nvrtcOptions (settings : Settings) (options : List String) (arch : String) : List String :=
  options ++ ["-arch=compute_" ++ arch] ++ debugOptions settings

/-- The message of a refusal, from the log and the error. -/
def refusalMessage (log : Except Nvrtc.Error String) (e : Nvrtc.Error) : String :=
  let log := log.toOption.getD ""
  if Text.isBlankText log then e.message else log

/-- Compiles a program, and reads the result or reports the refusal. -/
def compileProgram (program : Program) (source filename : String) (options : List String) :
    Act σ Error String := do
  match ← (program.compile p options).attempt with
  | .ok () =>
    let ptx ← (program.ptx p).mapError .nvrtc
    match Utf8.decode? ptx with
    | none => Act.fail .invalidPtx
    | some text => return text
  | .error .crash => Act.fail (.nvrtc .crash)
  | .error e =>
    let log ← (program.log p).attempt
    let failure : Failure := {
      compiler := .nvrtc
      message := refusalMessage log e
      source
      name := filename
      options }
    Act.change (report failure)
    Act.change fun w => w.warn ("NVRTC failed to compile " ++ filename ++ ": " ++ e.message)
    Act.fail (.compile failure)

/-- Compiles a source to PTX for an architecture. -/
def withNvrtc (source : String) (options : List String) (arch filename : String) :
    Act σ Error String := do
  let settings ← Act.look (·.settings)
  let program ← (Program.create p source filename).mapError .nvrtc
  (compileProgram p program source filename (nvrtcOptions settings options arch)).thenClean
    (program.drop p)

end GpuDriver.Compile
