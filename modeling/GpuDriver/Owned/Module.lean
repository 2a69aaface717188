import GpuDriver.Launch.Packing
import GpuDriver.Owned.Driver

/-!
# Owned modules

A module is loaded into the current context and remembers which one that was. It is unloaded when it is
dropped; if it went away with its context before, that is no failure. Its kernels can be launched with
arguments given one by one or packed in a buffer.
-/

namespace GpuDriver.Owned

variable {σ : Type} (p : Platform σ) (t : ThreadId)

/-- A module that is unloaded when it is dropped. -/
structure Module where
  /-- The driver's handle. -/
  handle : Handle
  /-- The context that was current when the module was loaded. -/
  context : Option Handle
deriving DecidableEq, Repr

/-- A kernel of a module. -/
structure Function where
  /-- The driver's handle. -/
  handle : Handle
  /-- The name that it was looked up by. -/
  name : String
deriving DecidableEq, Repr

namespace Module

/-- The octets of a path for the driver, which must be text without a NUL. -/
def pathOctets (path : Path) : Except Error Bytes :=
  if (Utf8.decode? path).isNone || path.contains 0 then .error (.invalidPath path) else .ok path

/-- Loads a module from a file. -/
def load (path : Path) : Act σ Error Module := do
  let octets ← Act.ofExcept (pathOctets path)
  let context ← (Driver.currentContext p t).mapError .call
  let handle ← (p.call t (.loadModule octets)).mapError .call
  return ⟨handle, context⟩

/-- Loads a module from memory. -/
def loadData (image : Bytes) : Act σ CallError Module := do
  let context ← Driver.currentContext p t
  let handle ← p.call t (.loadModuleData image)
  return ⟨handle, context⟩

/-- Looks up a kernel. -/
def function (m : Module) (name : String) : Act σ Error Function := do
  let octets ← Act.ofExcept (Driver.nameOctets name)
  let handle ← (p.call t (.function m.handle octets)).mapError .call
  return ⟨handle, name⟩

/-- Looks up a variable. -/
def global (m : Module) (name : String) : Act σ Error Allocation := do
  let octets ← Act.ofExcept (Driver.nameOctets name)
  (p.call t (.global m.handle octets)).mapError .call

/-- A status that says that the module went away with its context. -/
def wentWithContext (s : Status) : Bool := s = .invalidHandle || s = .contextIsDestroyed

/-- The world after the module was dropped. -/
def drop (m : Module) (w : World σ) : World σ :=
  if m.handle = 0 then w
  else match p.ask t (.unloadModule m.handle) w with
    | (.ok (), w) => w
    | (.error s, w) =>
      if wentWithContext s then w
      else match p.describe t s w with
        | (e, w) =>
          w.warn ("failed to unload module " ++ Text.hexLiteral m.handle ++ ": " ++ e.message)

/-- What is left of the module once its handle was taken. -/
def taken (m : Module) : Module := { m with handle := 0 }

/-- Unloads the module now, and drops what is left of it. -/
def unload (m : Module) : Act σ CallError Unit :=
  (p.call t (.unloadModule m.handle)).thenClean (m.taken.drop p t)

@[simp] theorem drop_taken (m : Module) (w : World σ) : m.taken.drop p t w = w := if_pos rfl

/-- The drop after a module was unloaded adds nothing. -/
theorem unload_eq (m : Module) : m.unload p t = p.call t (.unloadModule m.handle) :=
  Act.thenClean_eq_self (m.drop_taken p t)

end Module

namespace Function

/-- Launches the kernel with arguments given one by one. -/
def launch (f : Function) (config : LaunchConfig) (arguments : ParameterSlots) :
    Act σ CallError Unit :=
  p.call t (.launch {
    function := f.handle
    config
    parameters := if arguments.count = 0 then none else some arguments.arguments
    options := none })

/-- Launches the kernel with the arguments in one buffer. -/
def launchPacked (f : Function) (config : LaunchConfig) (arguments : ArgumentBuffer) :
    Act σ CallError Unit :=
  p.call t (.launch {
    function := f.handle
    config
    parameters := none
    options := some arguments.options })

end Function

end GpuDriver.Owned
