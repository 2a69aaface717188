import GpuDriver.InProcess.Compiler
import GpuDriver.InProcess.Step
import GpuDriver.Library.Native
import GpuDriver.Owned.Driver
import GpuDriver.Owned.Program

/-!
# Workbenches

On a workbench stand an in-process driver, an in-process runtime compiler and the vendor's libraries.
Which of them a platform uses is chosen for the driver and for the runtime compiler on its own.
-/

namespace GpuDriver

/-- The state of all native libraries; `ν` is that of the vendor's. -/
structure Bench (ν : Type) where
  /-- The in-process driver. -/
  driver : InProcess.State := .fresh
  /-- The in-process runtime compiler. -/
  compiler : InProcess.Compiler := {}
  /-- The vendor's libraries. -/
  vendor : ν

namespace Bench

variable {ν : Type}

/-- The in-process driver as a driver. -/
def inProcessDriver : Driver.Backend (Bench ν) := fun t files c b =>
  match InProcess.State.step t files c b.driver with
  | (reply, driver) => (reply, { b with driver })

/-- The in-process runtime compiler as a runtime compiler. -/
def inProcessNvrtc : Nvrtc.Backend (Bench ν) := fun c b =>
  match InProcess.Compiler.step c b.compiler with
  | (reply, compiler) => (reply, { b with compiler })

/-- The vendor's libraries on a workbench. -/
def vendorNative (native : Library.Native ν) : Library.Native (Bench ν) := fun c b =>
  match native c b.vendor with
  | (reply, vendor) => (reply, { b with vendor })

end Bench

/-- What the operating system does for the library. -/
structure Machine (ν : Type) where
  /-- Opens a library. -/
  opener : Library.Opener
  /-- Calls a function of a library that was opened. -/
  native : Library.Native ν
  /-- The programs that can be run. -/
  programs : Place → Option Executable
  /-- Makes a directory for a time in the directory at a path; its own path. -/
  makeTemporary : Path → FileTree → Except IoError (Path × FileTree)

namespace Machine

variable {ν : Type} (m : Machine ν)

/-- The system with the machine's programs. -/
def system : System where
  run := fun c files => c.run m.programs files
  makeTemporary := m.makeTemporary

/-- The platform with the given driver and runtime compiler. -/
def platform (driver : Driver.Backend (Bench ν)) (nvrtc : Nvrtc.Backend (Bench ν)) :
    Platform (Bench ν) where
  toSystem := m.system
  driver
  nvrtc

/-- The platform on which everything stays in the process. -/
def inProcess : Platform (Bench ν) := m.platform Bench.inProcessDriver Bench.inProcessNvrtc

/-- The driver in a library that was bound. -/
def driverOf (b : Library.DriverBinding) : Driver.Backend (Bench ν) :=
  b.backend (Bench.vendorNative m.native)

/-- The runtime compiler in a library that was bound. -/
def nvrtcOf (b : Library.NvrtcBinding) : Nvrtc.Backend (Bench ν) :=
  b.backend (Bench.vendorNative m.native)

/-- An answer found together with warnings. -/
def warned {σ ε α : Type} (answer : Except ε α × List String) : Act σ ε α := fun w =>
  (answer.1, { w with warnings := w.warnings ++ answer.2 })

/-- Opens the driver library at a path. -/
def openDriverAt (path : Path) : Act (Bench ν) Error (Driver.Backend (Bench ν)) := do
  let b ← warned (Library.openDriverAt m.opener path)
  return m.driverOf b

/-- Opens the driver library that the settings name, starts the driver and asks for its version. -/
def loadDriver (t : ThreadId) : Act (Bench ν) Error (Driver.Backend (Bench ν)) := do
  let settings ← Act.look (·.settings)
  let b ← warned (Library.openDriver m.opener settings.driverCandidates)
  let driver := m.driverOf b
  let p := m.platform driver Bench.inProcessNvrtc
  (Driver.init p t 0).mapError .call
  let _ ← (Driver.version p t).attempt
  return driver

/-- Opens the runtime compiler's library at a path. -/
def openNvrtcAt (path : Path) : Act (Bench ν) Nvrtc.Error (Nvrtc.Backend (Bench ν)) := do
  let b ← Act.ofExcept (Library.openNvrtcAt m.opener path)
  return m.nvrtcOf b

/-- Opens the runtime compiler's library that the settings name and asks for its version. -/
def loadNvrtc : Act (Bench ν) Nvrtc.Error (Nvrtc.Backend (Bench ν)) := do
  let settings ← Act.look (·.settings)
  let b ← warned (Library.openNvrtc m.opener settings.nvrtcCandidates)
  let nvrtc := m.nvrtcOf b
  let _ ← (Nvrtc.version (m.platform Bench.inProcessDriver nvrtc)).attempt
  return nvrtc

end Machine

end GpuDriver
