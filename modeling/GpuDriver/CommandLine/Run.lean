import GpuDriver.CommandLine.Invocation
import GpuDriver.Compile.Load
import GpuDriver.Owned.Context
import GpuDriver.Workbench

/-!
# Running the program

The words of the command line are read in a way that is given. Each task works in the primary context of
a device, which is given back when the task is over. A file is written only after everything that can fail
before it has succeeded. A task that fails says why on standard error.
-/

namespace GpuDriver.CommandLine

open Owned

variable {ν : Type}

/-- Why a task failed. -/
inductive Failure
  /-- The driver failed. -/
  | driver (error : Error)
  /-- The runtime compiler failed. -/
  | nvrtc (error : Nvrtc.Error)
  /-- Compilation failed. -/
  | compile (error : Compile.Error)
  /-- A file could not be read or written. -/
  | io (error : IoError)
  /-- There is nothing to link. -/
  | noInputs
  /-- The kind of an input is not known. -/
  | unknownKind (input : Path)
  /-- So many symbols were not found. -/
  | unresolved (count : Nat)
deriving DecidableEq, Repr

namespace Failure

/-- What the user is shown; behind it the cause, where there is one to be told apart. -/
def message : Failure → String
  | driver e => e.message
  | nvrtc e => e.message
  | compile (.io e) =>
    (Compile.Error.io e).message ++ "\n\nCaused by:\n    " ++ e.message
  | compile e => e.message
  | io e => e.message
  | noInputs => "no inputs to link"
  | unknownKind input => "cannot infer input kind of " ++ Path.display input ++ "; pass --kind"
  | unresolved count => Text.decimal count ++ " symbol(s) not resolved"

/-- A failed call. -/
def ofCall (e : CallError) : Failure := driver (.call e)

end Failure

/-- Something that a task does. -/
abbrev Doing (ν α : Type) : Type := Act (Bench ν) Failure α

/-- Writes a line to standard output. -/
def say (line : String) : Doing ν Unit := Act.change fun w => w.printLine line

/-- Reads a file. -/
def readFile (path : Path) : Doing ν Bytes := do
  let files ← Act.look (·.files)
  (Act.ofExcept (files.read path)).mapError .io

/-- Writes a file. -/
def writeFile (path : Path) (contents : Bytes) : Doing ν Unit :=
  (Act.writeFile path contents).mapError .io

/-! ### Opening -/

variable (m : Machine ν)

/-- The thread that the program runs on. -/
def mainThread : ThreadId := 0

/-- Opens and starts the driver. -/
def openDriver (mock : Bool) : Doing ν (Driver.Backend (Bench ν)) :=
  if mock then do
    (Driver.init m.inProcess mainThread 0).mapError .ofCall
    return Bench.inProcessDriver
  else (m.loadDriver mainThread).mapError .driver

/-- Opens the runtime compiler. -/
def openNvrtc (mock : Bool) : Doing ν (Nvrtc.Backend (Bench ν)) :=
  if mock then return Bench.inProcessNvrtc else m.loadNvrtc.mapError .nvrtc

/-- Opens the runtime compiler if it is asked for. -/
def openNvrtcIf (mock asked : Bool) : Doing ν (Option (Nvrtc.Backend (Bench ν))) :=
  if asked then do
    let nvrtc ← openNvrtc m mock
    return some nvrtc
  else return none

/-- The platform with a driver and the in-process runtime compiler. -/
def platformOf (driver : Driver.Backend (Bench ν)) : Platform (Bench ν) :=
  m.platform driver Bench.inProcessNvrtc

/-- Works in the primary context of a device. -/
def inPrimary {α : Type} (p : Platform (Bench ν)) (ordinal : Int) (work : Doing ν α) :
    Doing ν α := do
  let device ← (Driver.device p mainThread ordinal).mapError .ofCall
  let context ← (PrimaryContext.retain p mainThread device).mapError .ofCall
  (do
    (context.setCurrent p mainThread).mapError .ofCall
    work : Doing ν α).thenClean (context.drop p mainThread)

/-! ### Tasks -/

/-- Says what a device is capable of. -/
def describeDevices (p : Platform (Bench ν)) : List Device → Doing ν Unit
  | [] => return ()
  | d :: rest => do
    let (major, minor) ← (Driver.computeCapability p mainThread d).mapError .ofCall
    say (d.display ++ ": compute capability " ++ Text.signedDecimal major ++ "." ++
      Text.signedDecimal minor)
    describeDevices p rest

/-- Lists the devices. -/
def listDevices (p : Platform (Bench ν)) : Doing ν Unit := do
  let version ← (Driver.version p mainThread).mapError .ofCall
  say ("driver " ++ version.display)
  let devices ← (Driver.devices p mainThread).mapError .ofCall
  describeDevices p devices

/-- The kind of an input: what its extension says, or else what the user says. -/
def inputKind (path : Path) (fallback : Option ImageKind) : Except Failure ImageKind :=
  match ((Path.extension? path).bind Utf8.decode?).bind ImageKind.ofExtension? with
  | some kind => .ok kind
  | none =>
    match fallback with
    | some kind => .ok kind
    | none => .error (.unknownKind path)

/-- Adds the inputs to a link session. -/
def addInputs (p : Platform (Bench ν)) (fallback : Option ImageKind) (link : LinkSession) :
    List Path → Doing ν LinkSession
  | [] => return link
  | path :: rest => do
    let kind ← Act.ofExcept (inputKind path fallback)
    let data ← readFile path
    let link ← (link.add p mainThread kind data (Path.display path)).mapError .driver
    addInputs p fallback link rest

/-- Links inputs and writes the image. -/
def linkInputs (p : Platform (Bench ν)) (inputs : List Path) (out : Path)
    (kind : Option ImageKind) : Doing ν Unit := do
  let link ← (LinkSession.create p mainThread).mapError .ofCall
  let image ← (do
    let link ← addInputs p kind link inputs
    let image ← (link.complete p mainThread).mapError .ofCall
    writeFile out image
    return image : Doing ν Bytes).orElseClean (link.drop p mainThread)
  (link.destroy p mainThread).mapError .ofCall
  say ("linked " ++ Text.decimal inputs.length ++ " inputs -> " ++ Path.display out ++ " (" ++
    Text.decimal image.length ++ " bytes)")

/-- Says where the kernels of a module are; how many were not found. -/
def lookUpFunctions (p : Platform (Bench ν)) (module : Module) : List String → Doing ν Nat
  | [] => return 0
  | name :: rest => do
    match ← (module.function p mainThread name).attempt with
    | .ok f =>
      say ("function " ++ name ++ ": " ++ Text.hexLiteral f.handle)
      lookUpFunctions p module rest
    | .error e =>
      say ("function " ++ name ++ ": " ++ e.message)
      let missing ← lookUpFunctions p module rest
      return missing + 1

/-- Says where the variables of a module are; how many were not found. -/
def lookUpGlobals (p : Platform (Bench ν)) (module : Module) : List String → Doing ν Nat
  | [] => return 0
  | name :: rest => do
    match ← (module.global p mainThread name).attempt with
    | .ok g =>
      say ("global " ++ name ++ ": " ++ Text.hexLiteral g.address ++ " (" ++ Text.decimal g.bytes ++
        " bytes)")
      lookUpGlobals p module rest
    | .error e =>
      say ("global " ++ name ++ ": " ++ e.message)
      let missing ← lookUpGlobals p module rest
      return missing + 1

/-- Looks up symbols of a module. -/
def lookUpSymbols (p : Platform (Bench ν)) (path : Path) (functions globals : List String) :
    Doing ν Unit := do
  let module ← (Module.load p mainThread path).mapError .driver
  (do
    let missingFunctions ← lookUpFunctions p module functions
    let missingGlobals ← lookUpGlobals p module globals
    let missing := missingFunctions + missingGlobals
    if missing > 0 then Act.fail (.unresolved missing) else return () :
      Doing ν Unit).thenClean (module.drop p mainThread)

/-- The architecture to compile for: the one that the user names, or that of the device. -/
def chosenArchitecture (mock : Bool) (ordinal : Int) (nvrtc : Option (Nvrtc.Backend (Bench ν))) :
    Option String → Doing ν String
  | some arch => return arch
  | none => do
    let driver ← openDriver m mock
    let p := m.platform driver (nvrtc.getD Bench.inProcessNvrtc)
    inPrimary p ordinal
      ((Compile.defaultArchitecture p mainThread nvrtc.isSome).mapError .compile)

/-- Compiles the text of a source with the compiler that was asked for. -/
def compileText (nvrtc : Option (Nvrtc.Backend (Bench ν))) (codeType : String)
    (text arch filename : String) (options : List String) : Doing ν Compile.Code :=
  match nvrtc with
  | some nvrtc => do
    let p := m.platform Bench.inProcessDriver nvrtc
    let ptx ← (Compile.withNvrtc p text options arch filename).mapError .compile
    return .ptx ptx
  | none => do
    let type ← (Act.ofExcept (Compile.CodeType.parse codeType)).mapError .compile
    (Compile.withNvcc m.inProcess text options arch filename type).mapError .compile

/-- Compiles a source and writes the code. -/
def compileSource (mock : Bool) (ordinal : Int) (source out : Path) (codeType : String)
    (usesNvrtc : Bool) (arch : Option String) (options : List String) : Doing ν Unit := do
  let nvrtc ← openNvrtcIf m mock usesNvrtc
  let arch ← chosenArchitecture m mock ordinal nvrtc arch
  let files ← Act.look (·.files)
  let text ← (Act.ofExcept (files.readText source)).mapError .io
  let filename := ((Path.fileName? source).map Utf8.decodeLossy).getD "kern.cu"
  let code ← compileText m nvrtc codeType text arch filename options
  writeFile out code.bytes
  say ("compiled " ++ Path.display source ++ " -> " ++ Path.display out ++ " (sm_" ++ arch ++ ", " ++
    code.kind.name ++ ")")

/-- Does what an invocation asks for. -/
def perform (i : Invocation) : Doing ν Unit :=
  match i.task with
  | .devices => do
    let driver ← openDriver m i.mock
    listDevices (platformOf m driver)
  | .link inputs out kind => do
    let driver ← openDriver m i.mock
    let p := platformOf m driver
    if inputs.isEmpty then Act.fail .noInputs
    else inPrimary p i.device (linkInputs p inputs out kind)
  | .symbols module functions globals => do
    let driver ← openDriver m i.mock
    let p := platformOf m driver
    inPrimary p i.device (lookUpSymbols p module functions globals)
  | .compile source out codeType nvrtc arch options =>
    compileSource m i.mock i.device source out codeType nvrtc arch options

/-- Runs the program on the words of its command line; its exit code, and the world after it. -/
def run (read : Reader) (words : List Bytes) (w : World (Bench ν)) : Nat × World (Bench ν) :=
  match read words with
  | .error ending => (ending.code, { w with
      output := w.output ++ ending.output
      console := w.console ++ ending.errors })
  | .ok i =>
    match perform m i w with
    | (.ok (), w) => (0, w)
    | (.error (.compile (.nvrtc .crash)), w) => (101, w)
    | (.error e, w) => (1, w.complain ("Error: " ++ e.message ++ "\n"))

end GpuDriver.CommandLine
