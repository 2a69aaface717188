import GpuDriver.FileTree
import GpuDriver.InProcess.State

/-!
# Modules of the in-process driver

A module is loaded from an image in the current context. Each of its variables gets a range of device
memory of its own, in multiples of 256 octets and at least one; each of its kernels gets a handle.
Memory that was given out stays given out, also when the load fails at a later variable.
-/

namespace GpuDriver.InProcess.State

/-- Device memory is given out in multiples of this. -/
def memoryUnit : Nat := 0x100

/-- The octets that a variable of `bytes` octets is given. -/
def reserved (bytes : Nat) : Nat :=
  (max bytes 1 + (memoryUnit - 1)) / memoryUnit * memoryUnit

/-- The cursor after a variable of `bytes` octets; nothing if no address is left. -/
def advance? (cursor bytes : Nat) : Option Nat :=
  if max bytes 1 + (memoryUnit - 1) < Text.wordBound ∧ cursor + reserved bytes < Text.wordBound then
    some (cursor + reserved bytes)
  else none

/-- Gives out memory for variables, in order, to `placed`, which holds those already placed; and the
cursor after that. -/
def place (cursor : Nat) (placed : Table String Allocation) :
    List Ptx.Global → Option (Table String Allocation) × Nat
  | [] => (some placed, cursor)
  | g :: rest =>
    match advance? cursor g.bytes with
    | none => (none, cursor)
    | some next => place next (placed.insert g.name ⟨cursor, g.bytes⟩) rest

/-- The kernels of a module with their handles: the first gets the next handle after `last`. -/
def numbered (last : Handle) : List String → List (Handle × String)
  | [] => []
  | name :: rest => (last + handleStep, name) :: numbered (last + handleStep) rest

/-- The books with a module of the given variables and kernels. -/
def addModule (s : State) (context : Handle) (globals : Table String Allocation)
    (entries : List String) : Handle × State :=
  let m := s.withHandle.lastHandle
  let kernels := numbered m entries
  (m, { s with
    lastHandle := m + handleStep * entries.length
    modules := s.modules.insert m {
      context
      functions := .ofList (kernels.map fun k => (k.2, k.1))
      globals }
    functions := kernels.foldl (fun fs k => fs.insert k.1 ⟨m, k.2⟩) s.functions })

/-- Loads a module from an image. -/
def loadImage (s : State) (t : ThreadId) (image : Bytes) : Except Status Handle × State :=
  match s.current t with
  | .error e => (.error e, s)
  | .ok context =>
    match imageText? image with
    | none => (.error .invalidImage, s)
    | some text =>
      if Ptx.isModule text then
        match place s.nextAddress .empty (Ptx.symbols text).globals with
        | (none, cursor) => (.error .outOfMemory, { s with nextAddress := cursor })
        | (some globals, cursor) =>
          let (m, s) :=
            addModule { s with nextAddress := cursor } context globals (Ptx.symbols text).entries
          (.ok m, s)
      else (.error .invalidImage, s)

/-- Loads a module from a file. -/
def loadFile (s : State) (t : ThreadId) (files : FileTree) (path : Path) :
    Except Status Handle × State :=
  match Utf8.decode? path with
  | none => (.error .invalidValue, s)
  | some _ =>
    match s.current t with
    | .error e => (.error e, s)
    | .ok _ =>
      match files.read path with
      | .error _ => (.error .fileNotFound, s)
      | .ok image => s.loadImage t image

/-- The books without a module and without the kernels that are listed for it; and whether the module
was there. -/
def dropModule (s : State) (m : Handle) : Bool × State :=
  (s.modules.contains m, { s with
    modules := s.modules.erase m
    functions := s.functions.filter fun _ f => f.module ≠ m })

/-- Unloads a module. That it was not there is found only after the kernels listed for it are gone. -/
def unloadModule (s : State) (m : Handle) : Except Status Unit × State :=
  s.provided s.requireInit fun _ =>
    match s.dropModule m with
    | (true, s) => (.ok (), s)
    | (false, s) => (.error .invalidHandle, s)

/-- What a table of symbols gives a name. -/
def symbol {α : Type} (symbols : Table String α) (name : Bytes) : Except Status α :=
  match (Utf8.decode? name).bind symbols.get? with
  | none => .error .notFound
  | some found => .ok found

/-- The handle of a kernel. -/
def function (s : State) (m : Handle) (name : Bytes) : Except Status Handle := do
  let loaded ← s.module m
  symbol loaded.functions name

/-- The place of a variable. -/
def global (s : State) (m : Handle) (name : Bytes) : Except Status Allocation := do
  let loaded ← s.module m
  symbol loaded.globals name

end GpuDriver.InProcess.State
