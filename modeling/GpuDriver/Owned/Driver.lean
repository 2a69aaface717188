import GpuDriver.Platform

/-!
# Asking the driver

Calls of the driver with answers of the domain: versions, devices, contexts. Nothing here owns anything;
what has to be released again is in the modules beside this one.
-/

namespace GpuDriver.Driver

variable {σ : Type} (p : Platform σ) (t : ThreadId)

/-- Starts the driver. -/
def init (flags : Nat) : Act σ CallError Unit := p.call t (.init flags)

/-- The driver's version. -/
def version : Act σ CallError Version := do
  let raw ← p.call t .version
  return .ofRaw raw

/-- The number of devices. -/
def deviceCount : Act σ CallError Int := p.call t .deviceCount

/-- The device with an ordinal. -/
def device (ordinal : Int) : Act σ CallError Device := p.call t (.device ordinal)

/-- The devices with the given ordinals; the first failure ends it. -/
def devicesAt : List Nat → Act σ CallError (List Device)
  | [] => return []
  | i :: rest => do
    let d ← device p t i
    let ds ← devicesAt rest
    return d :: ds

/-- All devices. -/
def devices : Act σ CallError (List Device) := do
  let count ← deviceCount p t
  devicesAt p t (List.range count.toNat)

/-- An attribute of a device. -/
def deviceAttribute (d : Device) (which : Attribute) : Act σ CallError Int :=
  p.call t (.deviceAttribute which d)

/-- The major and the minor number of a device's compute capability. -/
def computeCapability (d : Device) : Act σ CallError (Int × Int) := do
  let major ← deviceAttribute p t d .capabilityMajor
  let minor ← deviceAttribute p t d .capabilityMinor
  return (major, minor)

/-- Gives up one retain of a device's primary context. -/
def releasePrimary (d : Device) : Act σ CallError Unit := p.call t (.releasePrimary d)

/-- The current context of the thread, if there is one. -/
def currentContext : Act σ CallError (Option Handle) := do
  let c ← p.call t .currentContext
  return if c = 0 then none else some c

/-- Makes a context current in place of the top of the thread's stack; without one, takes the top
off. -/
def setCurrentContext (c : Option Handle) : Act σ CallError Unit :=
  p.call t (.setCurrentContext (c.getD 0))

/-- The device of the current context. -/
def currentDevice : Act σ CallError Device := p.call t .currentDevice

/-- The octets of a name for the driver, which must not hold a NUL. -/
def nameOctets (name : String) : Except Error Bytes :=
  if name.toList.contains '\x00' then .error (.invalidName name) else .ok (Utf8.encode name)

end GpuDriver.Driver
