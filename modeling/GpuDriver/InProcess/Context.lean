import GpuDriver.InProcess.State

/-!
# Contexts of the in-process driver

Each thread has a stack of contexts; the top one is current. A context that is destroyed takes its
modules with it and leaves the stack of the thread that destroys it, if it is on top there. On other
stacks its handle stays, but can no longer be used. The primary context of a device lives as long as
someone retains it.
-/

namespace GpuDriver.InProcess.State

/-- Starts the driver. No flag is known, and there must be a device. -/
def init (s : State) (flags : Nat) : Except Status Unit × State :=
  if flags ≠ 0 then (.error .invalidValue, s)
  else if s.deviceCount = 0 then (.error .noDevice, s)
  else (.ok (), { s with initialized := true })

/-- The number of devices. -/
def countDevices (s : State) : Except Status Int := do
  s.requireInit
  return s.deviceCount

/-- The device with an ordinal. -/
def device (s : State) (ordinal : Int) : Except Status Device := do
  s.requireDevice ⟨ordinal⟩
  return ⟨ordinal⟩

/-- The most threads that a block may have. -/
def maxThreadsPerBlock : Nat := 1024

/-- The version of this driver, as one number. -/
def versionNumber : Int := 12040

/-- An attribute of a device. -/
def deviceAttribute (s : State) (which : Attribute) (d : Device) : Except Status Int := do
  s.requireDevice d
  if which = .capabilityMajor then return s.capability.1
  else if which = .capabilityMinor then return s.capability.2
  else if which = .maxThreadsPerBlock then return maxThreadsPerBlock
  else if which = .multiprocessorCount then return 80
  else .error .invalidValue

/-- The books without a context, its modules and their kernels. -/
def dropContext (s : State) (c : Handle) : State :=
  { s with
    contexts := s.contexts.erase c
    modules := s.modules.filter fun _ m => m.context ≠ c
    functions := s.functions.filter fun _ f =>
      ((s.modules.get? f.module).all fun m => m.context ≠ c) }

/-- Retains the primary context of a device, which the first retain creates. -/
def retainPrimary (s : State) (d : Device) : Except Status Handle × State :=
  s.provided (s.requireDevice d) fun _ =>
    match s.primaries.get? d.ordinal with
    | some p =>
      (.ok p.context,
        { s with primaries := s.primaries.insert d.ordinal { p with retains := p.retains + 1 } })
    | none =>
      let c := s.withHandle.lastHandle
      (.ok c, { s.withHandle with
        contexts := s.contexts.insert c ⟨d, true⟩
        primaries := s.primaries.insert d.ordinal ⟨c, 1⟩ })

/-- Releases the primary context of a device; the last release ends it. -/
def releasePrimary (s : State) (d : Device) : Except Status Unit × State :=
  s.provided (s.requireDevice d) fun _ =>
    match s.primaries.get? d.ordinal with
    | none => (.error .invalidContext, s)
    | some p =>
      if p.retains > 1 then
        (.ok (),
          { s with primaries := s.primaries.insert d.ordinal { p with retains := p.retains - 1 } })
      else (.ok (), { s.dropContext p.context with primaries := s.primaries.erase d.ordinal })

/-- The context on top of a thread's stack, or zero. -/
def currentContext (s : State) (t : ThreadId) : Except Status Handle := do
  s.requireInit
  return (s.top t).getD 0

/-- Replaces the top of a thread's stack, or pushes onto an empty one; zero takes the top off. -/
def setCurrentContext (s : State) (t : ThreadId) (c : Handle) : Except Status Unit × State :=
  s.provided s.requireInit fun _ =>
    if c = 0 then (.ok (), s.withStack t (s.stackOf t).tail)
    else if s.contexts.contains c then (.ok (), s.withStack t (c :: (s.stackOf t).tail))
    else (.error .invalidContext, s)

/-- The device of a thread's current context. -/
def currentDevice (s : State) (t : ThreadId) : Except Status Device := do
  let c ← s.current t
  match s.contexts.get? c with
  | none => .error .invalidContext
  | some context => return context.device

/-- Creates a context and puts it on top of the thread's stack. -/
def createContext (s : State) (t : ThreadId) (flags : Nat) (d : Device) :
    Except Status Handle × State :=
  s.provided (s.requireDevice d) fun _ =>
    if ContextFlags.valid flags then
      let c := s.withHandle.lastHandle
      (.ok c, { s.withHandle.withStack t (c :: s.stackOf t) with
        contexts := s.contexts.insert c ⟨d, false⟩ })
    else (.error .invalidValue, s)

/-- Destroys a context that is not a primary one. -/
def destroyContext (s : State) (t : ThreadId) (c : Handle) : Except Status Unit × State :=
  s.provided s.requireInit fun _ =>
    match s.contexts.get? c with
    | some ⟨_, false⟩ =>
      let s := s.dropContext c
      (.ok (), if s.top t = some c then s.withStack t (s.stackOf t).tail else s)
    | _ => (.error .invalidContext, s)

end GpuDriver.InProcess.State
