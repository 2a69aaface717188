import GpuDriver.Compile.Load
import GpuDriver.Owned.Context

/-!
# Owned objects and their uses

An owned object is a context, a retain of a primary context, a link session, a module or a program. It
is made in one of several ways, used in the ways of its kind, and given back when it is destroyed or
dropped.
-/

namespace GpuDriver.Session

open Owned

variable {σ : Type} (p : Platform σ) (t : ThreadId)

/-- An owned object. -/
inductive Object
  /-- A context. -/
  | context (c : Context)
  /-- A retain of a primary context. -/
  | primary (c : PrimaryContext)
  /-- A link session. -/
  | link (l : LinkSession)
  /-- A module. -/
  | module (m : Module)
  /-- A program. -/
  | program (program : Program)
deriving DecidableEq, Repr

/-- Why something could not be done with a slot. -/
inductive Refusal
  /-- The slot is empty. -/
  | emptySlot
  /-- The object in the slot cannot be used this way. -/
  | wrongUse
  /-- It was tried and failed. -/
  | failed (error : Compile.Error)
deriving DecidableEq, Repr

/-- A failed call as an error of compilation. -/
def ofCall (e : CallError) : Compile.Error := .driver (.call e)

/-! ### Making -/

/-- A way to make an owned object. -/
inductive Making
  /-- Creates a context. -/
  | context (d : Device) (flags : Nat)
  /-- Retains a primary context. -/
  | primary (d : Device)
  /-- Begins a link session. -/
  | link
  /-- Loads a module from a file. -/
  | module (path : Path)
  /-- Loads a module from memory. -/
  | moduleData (image : Bytes)
  /-- Compiles a source and loads the result. -/
  | compiled (source : String) (options : List String) (arch : Option String)
      (compiler : Compile.Compiler)
  /-- Creates a program. -/
  | program (source name : String)

/-- Makes an object. -/
def Making.run : Making → Act σ Compile.Error Object
  | context d flags => do
    let c ← (Context.create p t d flags).mapError ofCall
    return .context c
  | primary d => do
    let c ← (PrimaryContext.retain p t d).mapError ofCall
    return .primary c
  | link => do
    let l ← (LinkSession.create p t).mapError ofCall
    return .link l
  | module path => do
    let m ← (Module.load p t path).mapError .driver
    return .module m
  | moduleData image => do
    let m ← (Module.loadData p t image).mapError ofCall
    return .module m
  | compiled source options arch compiler => do
    let m ← Compile.compileAndLoad p t source options arch compiler
    return .module m
  | program source name => do
    let program ← (Program.create p source name).mapError .nvrtc
    return .program program

namespace Object

/-- The driver's or the compiler's handle. -/
def handle : Object → Handle
  | context c => c.handle
  | primary c => c.handle
  | link l => l.handle
  | module m => m.handle
  | program q => q.handle

/-- Gives an object back now. A program is only dropped, as it has no other end. -/
def destroy : Object → Act σ Compile.Error Unit
  | context c => (c.destroy p t).mapError ofCall
  | primary c => (c.release p t).mapError ofCall
  | link l => (l.destroy p t).mapError ofCall
  | module m => (m.unload p t).mapError ofCall
  | program q => Act.change (q.drop p)

/-- The world after an object was dropped. -/
def drop : Object → World σ → World σ
  | context c => c.drop p t
  | primary c => c.drop p t
  | link l => l.drop p t
  | module m => m.drop p t
  | program q => q.drop p

end Object

/-! ### Using -/

/-- A way to use an owned object. -/
inductive Use
  /-- Asks for the handle of a context. -/
  | contextHandle
  /-- Asks for the device of a context. -/
  | contextDevice
  /-- Makes a context current. -/
  | makeCurrent
  /-- Asks whether a context is current. -/
  | isCurrent
  /-- Adds an image to a link session. -/
  | add (kind : ImageKind) (data : Bytes) (name : String)
  /-- Adds a PTX text to a link session. -/
  | addPtx (text name : String)
  /-- Asks how many images a link session has accepted. -/
  | inputCount
  /-- Links what was added. -/
  | complete
  /-- Asks for the handle of a module. -/
  | moduleHandle
  /-- Asks for the context of a module. -/
  | moduleContext
  /-- Looks up a kernel. -/
  | function (name : String)
  /-- Looks up a variable. -/
  | global (name : String)
  /-- Launches a kernel with arguments given one by one. -/
  | launch (name : String) (config : LaunchConfig) (arguments : ParameterSlots)
  /-- Launches a kernel with arguments in a buffer. -/
  | launchPacked (name : String) (config : LaunchConfig) (arguments : ArgumentBuffer)
  /-- Compiles a program. -/
  | compile (options : List String)
  /-- Asks for the result of a program's last compilation. -/
  | ptx
  /-- Asks for the log of a program's last compilation. -/
  | log
  /-- Asks for the name and the handle of a program. -/
  | programInfo

/-- What a use is answered with. -/
abbrev Use.Value : Use → Type
  | .contextHandle | .moduleHandle => Handle
  | .contextDevice => Device
  | .isCurrent => Bool
  | .add .. | .addPtx .. | .inputCount => Nat
  | .complete | .ptx => Bytes
  | .moduleContext => Option Handle
  | .function _ => Function
  | .global _ => Allocation
  | .launch .. | .launchPacked .. => LaunchConfig
  | .log => String
  | .programInfo => String × Handle
  | .makeCurrent | .compile _ => Unit

/-- An object that has been used: the answer, the object after it and the world after it. -/
abbrev Used (σ α : Type) : Type := Except Refusal α × Object × World σ

/-- A use that leaves the object as it is. -/
def keeping {α : Type} (o : Object) (act : Act σ Compile.Error α) (w : World σ) : Used σ α :=
  match act w with
  | (.ok a, w) => (.ok a, o, w)
  | (.error e, w) => (.error (.failed e), o, w)

/-- A use that gives a link session one more image. -/
def growing (l : LinkSession) (act : Act σ Error LinkSession) (w : World σ) : Used σ Nat :=
  match act w with
  | (.ok l, w) => (.ok l.inputCount, .link l, w)
  | (.error e, w) => (.error (.failed (.driver e)), .link l, w)

/-- Looks up a kernel and launches it. -/
def launchOf (m : Module) (name : String) (config : LaunchConfig)
    (launch : Function → Act σ CallError Unit) : Act σ Compile.Error LaunchConfig := do
  let f ← (m.function p t name).mapError .driver
  (launch f).mapError ofCall
  return config

/-- Uses an object. -/
def Object.use : Object → (u : Use) → World σ → Used σ u.Value
  | o@(.context c), .contextHandle, w => (.ok c.handle, o, w)
  | o@(.context c), .contextDevice, w => (.ok c.device, o, w)
  | o@(.context c), .makeCurrent, w => keeping o ((c.setCurrent p t).mapError ofCall) w
  | o@(.context c), .isCurrent, w => keeping o ((c.isCurrent p t).mapError ofCall) w
  | o@(.primary c), .contextHandle, w => (.ok c.handle, o, w)
  | o@(.primary c), .contextDevice, w => (.ok c.device, o, w)
  | o@(.primary c), .makeCurrent, w => keeping o ((c.setCurrent p t).mapError ofCall) w
  | .link l, .add kind data name, w => growing l (l.add p t kind data name) w
  | .link l, .addPtx text name, w => growing l (l.addPtx p t text name) w
  | o@(.link l), .inputCount, w => (.ok l.inputCount, o, w)
  | o@(.link l), .complete, w => keeping o ((l.complete p t).mapError ofCall) w
  | o@(.module m), .moduleHandle, w => (.ok m.handle, o, w)
  | o@(.module m), .moduleContext, w => (.ok m.context, o, w)
  | o@(.module m), .function name, w => keeping o ((m.function p t name).mapError .driver) w
  | o@(.module m), .global name, w => keeping o ((m.global p t name).mapError .driver) w
  | o@(.module m), .launch name config arguments, w =>
    keeping o (launchOf p t m name config fun f => f.launch p t config arguments) w
  | o@(.module m), .launchPacked name config arguments, w =>
    keeping o (launchOf p t m name config fun f => f.launchPacked p t config arguments) w
  | o@(.program q), .compile options, w =>
    keeping o ((q.compile p options).mapError .nvrtc) w
  | o@(.program q), .ptx, w => keeping o ((q.ptx p).mapError .nvrtc) w
  | o@(.program q), .log, w => keeping o ((q.log p).mapError .nvrtc) w
  | o@(.program q), .programInfo, w => (.ok (q.name, q.handle), o, w)
  | o, _, w => (.error .wrongUse, o, w)

end GpuDriver.Session
