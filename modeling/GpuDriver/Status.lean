import GpuDriver.Text.Numeral

/-!
# Driver status codes

Every driver call answers with a status: zero for success, any other code for a failure. The codes
that have a symbolic name and a description are listed once, in `Status.known`; all others share the
name of the unknown error.
-/

namespace GpuDriver

/-- The outcome code of a driver call that failed, or zero. -/
structure Status where
  /-- The number that the driver returned. -/
  code : Int
deriving DecidableEq, Repr

namespace Status

/-- The call did what was asked. -/
def success : Status := ⟨0⟩
/-- An argument is out of its range. -/
def invalidValue : Status := ⟨1⟩
/-- There is not enough memory left. -/
def outOfMemory : Status := ⟨2⟩
/-- The driver has not been started. -/
def notInitialized : Status := ⟨3⟩
/-- The driver is shutting down. -/
def deinitialized : Status := ⟨4⟩
/-- The machine has no device. -/
def noDevice : Status := ⟨100⟩
/-- No device has this ordinal. -/
def invalidDevice : Status := ⟨101⟩
/-- The image cannot be loaded or linked. -/
def invalidImage : Status := ⟨200⟩
/-- There is no such context, or none is current. -/
def invalidContext : Status := ⟨201⟩
/-- The image holds no code for the device. -/
def noBinaryForGpu : Status := ⟨209⟩
/-- The PTX text cannot be compiled. -/
def invalidPtx : Status := ⟨218⟩
/-- The PTX compiler is not installed. -/
def jitCompilerNotFound : Status := ⟨221⟩
/-- The source is invalid. -/
def invalidSource : Status := ⟨300⟩
/-- The file cannot be read. -/
def fileNotFound : Status := ⟨301⟩
/-- A shared object lacks a symbol. -/
def sharedObjectSymbolNotFound : Status := ⟨302⟩
/-- The handle names nothing that is alive. -/
def invalidHandle : Status := ⟨400⟩
/-- No symbol has this name. -/
def notFound : Status := ⟨500⟩
/-- The work has not finished. -/
def notReady : Status := ⟨600⟩
/-- The launch asks for more than the device has. -/
def launchOutOfResources : Status := ⟨701⟩
/-- The launch took too long. -/
def launchTimeout : Status := ⟨702⟩
/-- The primary context is in use. -/
def primaryContextActive : Status := ⟨708⟩
/-- The current context has been destroyed. -/
def contextIsDestroyed : Status := ⟨709⟩
/-- The kernel failed. -/
def launchFailed : Status := ⟨719⟩
/-- The driver does not do this. -/
def notSupported : Status := ⟨801⟩
/-- The cause is not known. -/
def unknown : Status := ⟨999⟩

/-- The codes with a name and a description of their own. -/
def known : List (Status × String × String) := [
  (success, "CUDA_SUCCESS", "no error"),
  (invalidValue, "CUDA_ERROR_INVALID_VALUE", "invalid argument"),
  (outOfMemory, "CUDA_ERROR_OUT_OF_MEMORY", "out of memory"),
  (notInitialized, "CUDA_ERROR_NOT_INITIALIZED", "initialization error"),
  (deinitialized, "CUDA_ERROR_DEINITIALIZED", "driver shutting down"),
  (noDevice, "CUDA_ERROR_NO_DEVICE", "no CUDA-capable device is detected"),
  (invalidDevice, "CUDA_ERROR_INVALID_DEVICE", "invalid device ordinal"),
  (invalidImage, "CUDA_ERROR_INVALID_IMAGE", "device kernel image is invalid"),
  (invalidContext, "CUDA_ERROR_INVALID_CONTEXT", "invalid device context"),
  (noBinaryForGpu, "CUDA_ERROR_NO_BINARY_FOR_GPU",
    "no kernel image is available for execution on the device"),
  (invalidPtx, "CUDA_ERROR_INVALID_PTX", "a PTX JIT compilation failed"),
  (jitCompilerNotFound, "CUDA_ERROR_JIT_COMPILER_NOT_FOUND", "PTX JIT compiler library not found"),
  (invalidSource, "CUDA_ERROR_INVALID_SOURCE", "device kernel source is invalid"),
  (fileNotFound, "CUDA_ERROR_FILE_NOT_FOUND", "file not found"),
  (sharedObjectSymbolNotFound, "CUDA_ERROR_SHARED_OBJECT_SYMBOL_NOT_FOUND",
    "shared object symbol not found"),
  (invalidHandle, "CUDA_ERROR_INVALID_HANDLE", "invalid resource handle"),
  (notFound, "CUDA_ERROR_NOT_FOUND", "named symbol not found"),
  (notReady, "CUDA_ERROR_NOT_READY", "device not ready"),
  (launchOutOfResources, "CUDA_ERROR_LAUNCH_OUT_OF_RESOURCES",
    "too many resources requested for launch"),
  (launchTimeout, "CUDA_ERROR_LAUNCH_TIMEOUT", "the launch timed out and was terminated"),
  (primaryContextActive, "CUDA_ERROR_PRIMARY_CONTEXT_ACTIVE", "primary context active"),
  (contextIsDestroyed, "CUDA_ERROR_CONTEXT_IS_DESTROYED", "context is destroyed"),
  (launchFailed, "CUDA_ERROR_LAUNCH_FAILED", "unspecified launch failure"),
  (notSupported, "CUDA_ERROR_NOT_SUPPORTED", "operation not supported")]

/-- The symbolic name and the description of a status. -/
def texts (s : Status) : String × String :=
  (known.lookup s).getD ("CUDA_ERROR_UNKNOWN", "unknown error")

/-- The symbolic name of a status. -/
def name (s : Status) : String := s.texts.1

/-- The description of a status. -/
def description (s : Status) : String := s.texts.2

end Status

end GpuDriver
