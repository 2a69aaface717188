import GpuDriver.Path
import GpuDriver.Table
import GpuDriver.Text.Blank
import GpuDriver.Text.Numeral
import GpuDriver.Text.Utf8

/-!
# Settings

Where the vendor's libraries and compiler are, and what the compilers are told. Settings are read from
variables of the environment, stored, and read again on request; the one on dumping failed sources is
looked up in the environment each time it matters, before the stored one.
-/

namespace GpuDriver

/-- The variables of the environment. -/
abbrev Environment : Type := Table String Bytes

namespace Environment

/-- What a flag means: true exactly for the number one. -/
def flag (value : String) : Bool := Text.int64? (Text.trim value.toList) == some 1

/-- A flag variable; `default` when it is unset, empty or not text. -/
def bool (env : Environment) (name : String) (default : Bool) : Bool :=
  match (env.get? name).bind Utf8.decode? with
  | none => default
  | some value => if value.isEmpty then default else flag value

/-- A path variable, if it is set and not empty. -/
def path? (env : Environment) (name : String) : Option Path :=
  (env.get? name).filter fun value => !value.isEmpty

/-- The variable for the directory that temporary directories are made in. -/
def temporaryVariable : String := "TMPDIR"

/-- Where temporary directories are made. -/
def temporaryParent (env : Environment) : Path :=
  (env.get? temporaryVariable).getD (Utf8.encode "/tmp")

/-- The variable for the directories that programs are looked for in. -/
def programsVariable : String := "PATH"

/-- Where programs are looked for. An empty name stands for the working directory. -/
def programDirectories (env : Environment) : List Path :=
  Text.pieces (· == 0x3A) ((env.get? programsVariable).getD (Utf8.encode "/bin:/usr/bin"))

/-- The variable for directories that libraries are looked for in. -/
def librariesVariable : String := "LD_LIBRARY_PATH"

/-- Where libraries are looked for before the system's own places; directories stand between colons or
semicolons. An empty name stands for the working directory. -/
def libraryDirectories (env : Environment) : List Path :=
  match env.path? librariesVariable with
  | none => []
  | some value => (Text.pieces (fun b => b == 0x3A || b == 0x3B) value).map Path.asDirectory

end Environment

/-- The settings. -/
structure Settings where
  /-- The driver library; without one the usual names are tried. -/
  driverLibrary : Option Path
  /-- The runtime compiler's library; without one the usual names are tried. -/
  nvrtcLibrary : Option Path
  /-- The compiler that is run as a command. -/
  nvcc : Path
  /-- Dump sources that fail to compile. -/
  dumpSource : Bool
  /-- Compile with debug information. -/
  compileWithDebug : Bool
deriving DecidableEq, Repr

namespace Settings

/-- The variable for the driver library. -/
def driverVariable : String := "CUDRV_LIBRARY_PATH"

/-- The variable for the runtime compiler's library. -/
def nvrtcVariable : String := "CUDRV_NVRTC_PATH"

/-- The variable for the compiler that is run as a command. -/
def nvccVariable : String := "CUDRV_NVCC"

/-- The variable for debug information. -/
def debugVariable : String := "CUDRV_COMPILE_WITH_DEBUG"

/-- The variable for dumping sources that fail to compile. -/
def dumpVariable : String := "CUDRV_DUMP_CUDA_SOURCE_ON_ERROR"

/-- The settings that an environment asks for. -/
def ofEnvironment (env : Environment) : Settings where
  driverLibrary := env.path? driverVariable
  nvrtcLibrary := env.path? nvrtcVariable
  nvcc := (env.path? nvccVariable).getD (Utf8.encode "nvcc")
  dumpSource := env.bool dumpVariable false
  compileWithDebug := env.bool debugVariable false

/-- Whether a failed source is dumped now. -/
def dumpsSource (s : Settings) (env : Environment) : Bool := env.bool dumpVariable s.dumpSource

/-- The names under which the driver library is looked for, in order. -/
def driverCandidates (s : Settings) : List Path :=
  match s.driverLibrary with
  | some path => [path]
  | none => ["libcuda.so.1", "libcuda.so"].map Utf8.encode

/-- The names under which the runtime compiler's library is looked for, in order. -/
def nvrtcCandidates (s : Settings) : List Path :=
  match s.nvrtcLibrary with
  | some path => [path]
  | none => ["libnvrtc.so", "libnvrtc.so.12", "libnvrtc.so.11.2"].map Utf8.encode

end Settings

end GpuDriver
