import GpuDriver.Compile.Failure
import GpuDriver.Owned.Driver
import GpuDriver.Owned.Program

/-!
# Choosing the architecture

An architecture is named by the major and the minor number of a compute capability. Without a choice of
the user it is that of the current device, or the newest that the runtime compiler knows if that is
older.
-/

namespace GpuDriver.Compile

variable {σ : Type} (p : Platform σ) (t : ThreadId)

/-- The architecture of a device: both numbers of its capability side by side. -/
def architectureOf (d : Device) : Act σ CallError String := do
  let (major, minor) ← Driver.computeCapability p t d
  return Text.signedDecimal major ++ Text.signedDecimal minor

/-- The architecture of the current device, held down to what the runtime compiler knows if that is to
compile. -/
def defaultArchitecture (usesNvrtc : Bool) : Act σ Error String := do
  let device ← (Driver.currentDevice p t).mapError fun e => .driver (.call e)
  let (major, minor) ← (Driver.computeCapability p t device).mapError fun e => .driver (.call e)
  let arch := major * 10 + minor
  if usesNvrtc then
    let cap ← (Nvrtc.maxArchitecture p).mapError .nvrtc
    return Text.signedDecimal (min arch cap)
  else return Text.signedDecimal arch

end GpuDriver.Compile
