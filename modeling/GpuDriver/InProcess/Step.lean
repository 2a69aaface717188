import GpuDriver.InProcess.Launch
import GpuDriver.InProcess.Link
import GpuDriver.InProcess.Module

/-!
# Steps of the in-process driver

`State.step` answers any call of the driver. A call that only asks leaves the books as they are; what the
others leave, also when they fail, is what they have made of the books by the time they answer.
-/

namespace GpuDriver.InProcess.State

/-- The answer to a question, which changes nothing. -/
def asked {α : Type} (s : State) (answer : Except Status α) : Except Status α × State := (answer, s)

/-- The answer to a call made on a thread, and the books after it. -/
def step (t : ThreadId) (files : FileTree) : (c : Driver.Call) → State → c.Reply × State
  | .init flags, s => s.init flags
  | .version, s => s.asked (.ok versionNumber)
  | .deviceCount, s => s.asked s.countDevices
  | .device ordinal, s => s.asked (s.device ordinal)
  | .deviceAttribute which d, s => s.asked (s.deviceAttribute which d)
  | .retainPrimary d, s => s.retainPrimary d
  | .releasePrimary d, s => s.releasePrimary d
  | .currentContext, s => s.asked (s.currentContext t)
  | .setCurrentContext c, s => s.setCurrentContext t c
  | .currentDevice, s => s.asked (s.currentDevice t)
  | .createContext flags d, s => s.createContext t flags d
  | .destroyContext c, s => s.destroyContext t c
  | .createLink, s => s.createLink t
  | .addLinkInput l kind data name, s => s.addLinkInput l kind data name
  | .completeLink l, s => s.asked (s.completeLink l)
  | .destroyLink l, s => s.destroyLink l
  | .loadModule path, s => s.loadFile t files path
  | .loadModuleData image, s => s.loadImage t image
  | .unloadModule m, s => s.unloadModule m
  | .function m name, s => s.asked (s.function m name)
  | .global m name, s => s.asked (s.global m name)
  | .launch request, s => s.launch t request
  | .errorName status, s => s.asked (.ok (some status.name))
  | .errorText status, s => s.asked (.ok (some status.description))

end GpuDriver.InProcess.State
