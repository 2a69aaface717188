import GpuDriver.Device
import GpuDriver.Driver.Call
import GpuDriver.Ptx.Symbols
import GpuDriver.Table

/-!
# The in-process driver

A driver without a device. It keeps the books that a driver keeps: whether it has been started, which
contexts are alive, who retains the primary ones, which context each thread works in, what is loaded
and what is being linked. Images are PTX text; launches are recorded and never run.

Handles are given out in ascending order and never twice; device memory is given out from a cursor that
only moves up.
-/

namespace GpuDriver.InProcess

/-- A context that is alive. -/
structure Context where
  /-- The device that it is on. -/
  device : Device
  /-- It is the primary context of that device. -/
  primary : Bool
deriving DecidableEq, Repr

/-- The primary context of a device while it is retained. -/
structure Primary where
  /-- The context. -/
  context : Handle
  /-- How often it has been retained and not released. -/
  retains : Nat
deriving DecidableEq, Repr

/-- A module that is loaded. -/
structure Module where
  /-- The context that it was loaded in. -/
  context : Handle
  /-- Its kernels. -/
  functions : Table String Handle
  /-- Its variables. -/
  globals : Table String Allocation

/-- A kernel of a module that is loaded. -/
structure Function where
  /-- The module. -/
  module : Handle
  /-- The kernel's name. -/
  name : String
deriving DecidableEq, Repr

/-- An image that a link session has accepted. -/
structure LinkInput where
  /-- What it was said to be. -/
  kind : ImageKind
  /-- What it was called. -/
  name : String
  /-- The PTX text that it holds. -/
  text : String
deriving DecidableEq, Repr

/-- A launch that was accepted. -/
structure LaunchRecord where
  /-- The kernel. -/
  function : Handle
  /-- The kernel's name. -/
  name : String
  /-- How it was launched. -/
  config : LaunchConfig
  /-- How many arguments were given one by one. -/
  parameterCount : Nat
  /-- The size of the buffer, if the arguments were given in one. -/
  bufferBytes : Option Nat
deriving DecidableEq, Repr

/-- The books of the driver. -/
structure State where
  /-- The driver has been started. -/
  initialized : Bool := false
  /-- How many devices there are. -/
  deviceCount : Int := 1
  /-- The compute capability of every device. -/
  capability : Int × Int := (7, 0)
  /-- The handle that was given out last. -/
  lastHandle : Handle := 0x1000
  /-- The first address of device memory that is not taken. -/
  nextAddress : Address := 0x7f0000000000
  /-- The contexts that are alive. -/
  contexts : Table Handle Context := .empty
  /-- The primary contexts that are retained, by the ordinals of their devices. -/
  primaries : Table Int Primary := .empty
  /-- The contexts that each thread works in; the first is the current one. -/
  stackOf : ThreadId → List Handle := fun _ => []
  /-- The modules that are loaded. -/
  modules : Table Handle Module := .empty
  /-- The kernels of those modules. -/
  functions : Table Handle Function := .empty
  /-- The link sessions, each with what it has accepted, oldest first. -/
  links : Table Handle (List LinkInput) := .empty
  /-- The launches, oldest first. -/
  launches : List LaunchRecord := []

namespace State

/-- The books of a driver that has not been started. -/
def fresh (devices : Int := 1) (capability : Int × Int := (7, 0)) : State :=
  { deviceCount := max devices 0, capability }

/-- The step from one handle to the next. -/
def handleStep : Nat := 0x100

/-- The books after a handle was given out. -/
def withHandle (s : State) : State := { s with lastHandle := s.lastHandle + handleStep }

/-- The books with another stack for a thread. -/
def withStack (s : State) (t : ThreadId) (stack : List Handle) : State :=
  { s with stackOf := fun u => if u = t then stack else s.stackOf u }

/-- The driver must have been started. -/
def requireInit (s : State) : Except Status Unit :=
  if s.initialized then .ok () else .error .notInitialized

/-- The driver must have been started and must know the device. -/
def requireDevice (s : State) (d : Device) : Except Status Unit := do
  s.requireInit
  if 0 ≤ d.ordinal ∧ d.ordinal < s.deviceCount then .ok () else .error .invalidDevice

/-- What `next` makes of the answer to a question. If the question is answered with a status instead,
the call ends there, with the books as they are by then. -/
def provided {α β : Type} (s : State) (answer : Except Status α)
    (next : α → Except Status β × State) : Except Status β × State :=
  match answer with
  | .error e => (.error e, s)
  | .ok a => next a

/-- The context on top of a thread's stack, alive or not. -/
def top (s : State) (t : ThreadId) : Option Handle := (s.stackOf t).head?

/-- The current context of a thread, which must be alive. -/
def current (s : State) (t : ThreadId) : Except Status Handle := do
  s.requireInit
  match s.top t with
  | none => .error .invalidContext
  | some c => if s.contexts.contains c then .ok c else .error .contextIsDestroyed

/-- The link session with a handle. -/
def link (s : State) (l : Handle) : Except Status (List LinkInput) := do
  s.requireInit
  match s.links.get? l with
  | none => .error .invalidHandle
  | some inputs => .ok inputs

/-- The module with a handle. -/
def module (s : State) (m : Handle) : Except Status Module := do
  s.requireInit
  match s.modules.get? m with
  | none => .error .invalidHandle
  | some loaded => .ok loaded

/-- How often the primary context of a device is retained. -/
def retains (s : State) (d : Device) : Nat := ((s.primaries.get? d.ordinal).map (·.retains)).getD 0

end State

/-- The PTX text that an image holds, without the NULs at its end. -/
def imageText? (image : Bytes) : Option String :=
  match Utf8.decode? (image.reverse.dropWhile (· == 0)).reverse with
  | none => none
  | some text => if Text.isBlankText text then none else some text

end GpuDriver.InProcess
