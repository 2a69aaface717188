import GpuDriver.Nvrtc.Call
import GpuDriver.Source.Translation
import GpuDriver.Table

/-!
# The in-process runtime compiler

A runtime compiler that translates sources as `Source.translate` says. It keeps each program's source
and name as they were when it was created; what the last compilation left is either a PTX text and an
empty log, or no text and the reason.
-/

namespace GpuDriver.InProcess

open Text

/-- A program of the runtime compiler. -/
structure Program where
  /-- The source. -/
  source : String
  /-- What the source is called in messages. -/
  name : String
  /-- The result of the last compilation, if it succeeded. -/
  ptx : Option String := none
  /-- The log of the last compilation. -/
  log : String := ""
deriving DecidableEq, Repr

/-- The runtime compiler. -/
structure Compiler where
  /-- Its version. -/
  version : Int × Int := (12, 4)
  /-- The architectures that it compiles for, if it tells. -/
  architectures : Option (List Int) :=
    some [50, 52, 53, 60, 61, 62, 70, 72, 75, 80, 86, 87, 89, 90]
  /-- The programs. -/
  programs : Table Handle Program := .empty
  /-- The handle that was given out last. -/
  lastHandle : Handle := 0x7000
  /-- The options of the last compilation. -/
  lastOptions : List String := []

namespace Compiler

/-- The architecture that is compiled for when no option names one. -/
def defaultArchitecture : Int := 52

/-- What an option gives as the architecture, if it is the option for that. -/
def architectureValue? (option : String) : Option (List Char) :=
  (after? "-arch=".toList option.toList).orElse fun _ =>
    after? "--gpu-architecture=".toList option.toList

/-- The log of an architecture that cannot be compiled for. -/
def badArchitecture (value : String) : String := "nvrtc: error: invalid value for -arch: " ++ value

/-- The architecture that options name, the last one counting, or `arch` if none does; or the log of
the first option that cannot be read. -/
def namedArchitecture (arch : Int) : List String → Except String Int
  | [] => .ok arch
  | option :: rest =>
    match architectureValue? option with
    | none =>
      if option.toList.head? = some '-' then namedArchitecture arch rest
      else .error ("nvrtc: error: unrecognized option " ++ option)
    | some value =>
      match (after? "compute_".toList value).bind int32? with
      | some arch => namedArchitecture arch rest
      | none => .error (badArchitecture (String.ofList value))

/-- The architecture to compile for, or the log of the failure. -/
def targetArchitecture (c : Compiler) (options : List String) : Except String Int :=
  match namedArchitecture defaultArchitecture options with
  | .error log => .error log
  | .ok arch =>
    match c.architectures with
    | none => .ok arch
    | some known =>
      if known.contains arch then .ok arch
      else .error (badArchitecture ("compute_" ++ signedDecimal arch))

/-- The compiler with a program changed. -/
def withProgram (c : Compiler) (p : Handle) (program : Program) : Compiler :=
  { c with programs := c.programs.insert p program }

/-- Creates a program. -/
def create (c : Compiler) (source name : Bytes) : Except Nvrtc.Fault Handle × Compiler :=
  match Utf8.decode? source with
  | none => (.error (.code .invalidInput), c)
  | some source =>
    let p := c.lastHandle + 0x10
    (.ok p, { c with
      lastHandle := p
      programs := c.programs.insert p { source, name := Utf8.decodeLossy name } })

/-- Destroys a program. -/
def destroy (c : Compiler) (p : Handle) : Except Nvrtc.Fault Unit × Compiler :=
  match c.programs.get? p with
  | none => (.error (.code .invalidProgram), c)
  | some _ => (.ok (), { c with programs := c.programs.erase p })

/-- Compiles a program with options already read as text. -/
def compileWith (c : Compiler) (p : Handle) (options : List String) :
    Except Nvrtc.Fault Unit × Compiler :=
  match c.programs.get? p with
  | none => (.error (.code .invalidProgram), c)
  | some program =>
    match c.targetArchitecture options with
    | .error log =>
      (.error (.code .invalidOption), c.withProgram p { program with ptx := none, log })
    | .ok arch =>
      match Source.translate program.source arch with
      | .ok text => (.ok (), c.withProgram p { program with ptx := some text, log := "" })
      | .error (.flaw flaw) =>
        (.error (.code .compilation),
          c.withProgram p { program with ptx := none, log := flaw.log program.name })
      | .error .torn => (.error .crash, c.withProgram p { program with ptx := none })

/-- Compiles a program. -/
def compile (c : Compiler) (p : Handle) (options : List Bytes) :
    Except Nvrtc.Fault Unit × Compiler :=
  let options := options.map Utf8.decodeLossy
  { c with lastOptions := options }.compileWith p options

/-- The result of the last compilation of a program. -/
def ptx (c : Compiler) (p : Handle) : Except Nvrtc.Fault Bytes :=
  match (c.programs.get? p).bind (·.ptx) with
  | none => .error (.code .invalidProgram)
  | some text => .ok (Utf8.encode text)

/-- The log of the last compilation of a program. -/
def log (c : Compiler) (p : Handle) : Except Nvrtc.Fault String :=
  match c.programs.get? p with
  | none => .error (.code .invalidProgram)
  | some program => .ok program.log

/-- The answer to a call, and the compiler after it. -/
def step : (call : Nvrtc.Call) → Compiler → call.Reply × Compiler
  | .version, c => (.ok c.version, c)
  | .architectures, c => (.ok c.architectures, c)
  | .create source name, c => c.create source name
  | .destroy p, c => c.destroy p
  | .compile p options, c => c.compile p options
  | .ptx p, c => (c.ptx p, c)
  | .log p, c => (c.log p, c)
  | .errorText code, c => (.ok (some code.name), c)

end Compiler

end GpuDriver.InProcess
