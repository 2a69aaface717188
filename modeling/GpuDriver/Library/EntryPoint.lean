/-!
# Entry points of the vendor's libraries

The functions that are called in the driver library and in the runtime compiler's library, in the order
in which they are looked up, with the symbols that each can be found under. A versioned symbol comes
before the one without a version.
-/

namespace GpuDriver.Library

/-- A function that the driver library must have. -/
inductive DriverEntry
  /-- Starts the driver. -/
  | init
  /-- Tells the version. -/
  | driverGetVersion
  /-- Counts the devices. -/
  | deviceGetCount
  /-- Finds a device. -/
  | deviceGet
  /-- Tells an attribute of a device. -/
  | deviceGetAttribute
  /-- Retains a primary context. -/
  | primaryCtxRetain
  /-- Releases a primary context. -/
  | primaryCtxRelease
  /-- Tells the current context. -/
  | ctxGetCurrent
  /-- Sets the current context. -/
  | ctxSetCurrent
  /-- Tells the device of the current context. -/
  | ctxGetDevice
  /-- Creates a context. -/
  | ctxCreate
  /-- Destroys a context. -/
  | ctxDestroy
  /-- Begins a link session. -/
  | linkCreate
  /-- Adds to a link session. -/
  | linkAddData
  /-- Links. -/
  | linkComplete
  /-- Ends a link session. -/
  | linkDestroy
  /-- Loads a file. -/
  | moduleLoad
  /-- Loads an image. -/
  | moduleLoadData
  /-- Unloads a module. -/
  | moduleUnload
  /-- Finds a kernel. -/
  | moduleGetFunction
  /-- Finds a variable. -/
  | moduleGetGlobal
  /-- Launches a kernel. -/
  | launchKernel
deriving DecidableEq, Repr

namespace DriverEntry

/-- All entry points, in the order in which they are looked up. -/
def all : List DriverEntry := [
  init, driverGetVersion, deviceGetCount, deviceGet, deviceGetAttribute, primaryCtxRetain,
  primaryCtxRelease, ctxGetCurrent, ctxSetCurrent, ctxGetDevice, ctxCreate, ctxDestroy, linkCreate,
  linkAddData, linkComplete, linkDestroy, moduleLoad, moduleLoadData, moduleUnload,
  moduleGetFunction, moduleGetGlobal, launchKernel]

/-- The symbols that the entry points can be found under: a row for each, in the order of `all`, with the
preferred symbol first. Which entry point a row is for is told by its position alone. -/
def rows : List (List String) := [
  ["cuInit"],
  ["cuDriverGetVersion"],
  ["cuDeviceGetCount"],
  ["cuDeviceGet"],
  ["cuDeviceGetAttribute"],
  ["cuDevicePrimaryCtxRetain"],
  ["cuDevicePrimaryCtxRelease_v2", "cuDevicePrimaryCtxRelease"],
  ["cuCtxGetCurrent"],
  ["cuCtxSetCurrent"],
  ["cuCtxGetDevice"],
  ["cuCtxCreate_v2", "cuCtxCreate"],
  ["cuCtxDestroy_v2", "cuCtxDestroy"],
  ["cuLinkCreate_v2", "cuLinkCreate"],
  ["cuLinkAddData_v2", "cuLinkAddData"],
  ["cuLinkComplete"],
  ["cuLinkDestroy"],
  ["cuModuleLoad"],
  ["cuModuleLoadData"],
  ["cuModuleUnload"],
  ["cuModuleGetFunction"],
  ["cuModuleGetGlobal_v2", "cuModuleGetGlobal"],
  ["cuLaunchKernel"]]

theorem mem_all (e : DriverEntry) : e ∈ all := by cases e <;> decide

end DriverEntry

/-- The symbol of the function that names a status; a driver library need not have it. -/
def errorNameSymbol : String := "cuGetErrorName"

/-- The symbol of the function that describes a status; a driver library need not have it. -/
def errorTextSymbol : String := "cuGetErrorString"

/-- A function that the runtime compiler's library must have. -/
inductive NvrtcEntry
  /-- Tells the version. -/
  | version
  /-- Creates a program. -/
  | createProgram
  /-- Destroys a program. -/
  | destroyProgram
  /-- Compiles a program. -/
  | compileProgram
  /-- Tells the size of the result. -/
  | ptxSize
  /-- Copies the result. -/
  | ptx
  /-- Tells the size of the log. -/
  | logSize
  /-- Copies the log. -/
  | log
deriving DecidableEq, Repr

namespace NvrtcEntry

/-- All entry points, in the order in which they are looked up. -/
def all : List NvrtcEntry :=
  [version, createProgram, destroyProgram, compileProgram, ptxSize, ptx, logSize, log]

/-- The symbol of an entry point. -/
def symbol : NvrtcEntry → String
  | version => "nvrtcVersion"
  | createProgram => "nvrtcCreateProgram"
  | destroyProgram => "nvrtcDestroyProgram"
  | compileProgram => "nvrtcCompileProgram"
  | ptxSize => "nvrtcGetPTXSize"
  | ptx => "nvrtcGetPTX"
  | logSize => "nvrtcGetProgramLogSize"
  | log => "nvrtcGetProgramLog"

end NvrtcEntry

/-- The symbol of the function that names a code; a library need not have it. -/
def codeNameSymbol : String := "nvrtcGetErrorString"

/-- The symbol of the function that counts the architectures; a library need not have it. -/
def architectureCountSymbol : String := "nvrtcGetNumSupportedArchs"

/-- The symbol of the function that lists the architectures; a library need not have it. -/
def architectureListSymbol : String := "nvrtcGetSupportedArchs"

/-- Every symbol that is looked up in either library. -/
def knownSymbols : List String :=
  DriverEntry.rows.flatten ++ [errorNameSymbol, errorTextSymbol] ++
    NvrtcEntry.all.map NvrtcEntry.symbol ++
    [codeNameSymbol, architectureCountSymbol, architectureListSymbol]

end GpuDriver.Library
