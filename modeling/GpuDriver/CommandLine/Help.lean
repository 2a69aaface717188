/-!
# Help

What the program says of itself and of its commands. The help for a command shows the command's own
options first and then those that every command has.
-/

namespace GpuDriver.CommandLine

/-- The program's name and version. -/
def versionText : String := "cudrv 0.1.0\n"

/-- The help for all commands. -/
def programHelp : String :=
  "CUDA driver utilities\n\nUsage: cudrv [OPTIONS] <COMMAND>\n\nCommands:\n" ++
  "  devices  List devices and their compute capability\n" ++
  "  link     Link PTX/cubin/fatbin/object/library inputs into one cubin\n" ++
  "  symbols  Load a module and resolve kernels and globals in it\n" ++
  "  compile  Compile CUDA source with nvcc, or with NVRTC to PTX\n" ++
  "  help     Print this message or the help of the given subcommand(s)\n\nOptions:\n" ++
  "      --mock             Use the in-process mock driver instead of libcuda\n" ++
  "      --device <DEVICE>  Device ordinal whose primary context is used [default: 0]\n" ++
  "  -h, --help             Print help\n" ++
  "  -V, --version          Print version\n"

/-- The help for listing the devices. -/
def devicesHelp : String :=
  "List devices and their compute capability\n\nUsage: cudrv devices [OPTIONS]\n\nOptions:\n" ++
  "      --mock             Use the in-process mock driver instead of libcuda\n" ++
  "      --device <DEVICE>  Device ordinal whose primary context is used [default: 0]\n" ++
  "  -h, --help             Print help\n"

/-- The help for linking. -/
def linkHelp : String :=
  "Link PTX/cubin/fatbin/object/library inputs into one cubin\n\n" ++
  "Usage: cudrv link [OPTIONS] -o <OUT> [INPUTS]...\n\nArguments:\n  [INPUTS]...  \n\nOptions:\n" ++
  "  -o <OUT>               \n" ++
  "      --kind <KIND>      Input kind for files whose extension does not say\n" ++
  "      --mock             Use the in-process mock driver instead of libcuda\n" ++
  "      --device <DEVICE>  Device ordinal whose primary context is used [default: 0]\n" ++
  "  -h, --help             Print help\n"

/-- The help for looking up symbols. -/
def symbolsHelp : String :=
  "Load a module and resolve kernels and globals in it\n\n" ++
  "Usage: cudrv symbols [OPTIONS] <MODULE>\n\nArguments:\n  <MODULE>  \n\nOptions:\n" ++
  "      --function <FUNCTIONS>  \n" ++
  "      --global <GLOBALS>      \n" ++
  "      --mock                  Use the in-process mock driver instead of libcuda\n" ++
  "      --device <DEVICE>       Device ordinal whose primary context is used [default: 0]\n" ++
  "  -h, --help                  Print help\n"

/-- The help for compiling. -/
def compileHelp : String :=
  "Compile CUDA source with nvcc, or with NVRTC to PTX\n\n" ++
  "Usage: cudrv compile [OPTIONS] -o <OUT> <SOURCE> [-- <OPTIONS>...]\n\n" ++
  "Arguments:\n  <SOURCE>      \n  [OPTIONS]...  \n\nOptions:\n" ++
  "  -o <OUT>                     \n" ++
  "      --code-type <CODE_TYPE>  " ++
  "Ignored with --nvrtc, which always emits PTX [default: cubin]\n" ++
  "      --nvrtc                  Compile in process through NVRTC instead of running nvcc\n" ++
  "      --arch <ARCH>            " ++
  "Target architecture such as 86; queried from the device when omitted\n" ++
  "      --mock                   Use the in-process mock driver instead of libcuda\n" ++
  "      --device <DEVICE>        Device ordinal whose primary context is used [default: 0]\n" ++
  "  -h, --help                   Print help\n"

/-- The help for help. -/
def helpHelp : String :=
  "Print this message or the help of the given subcommand(s)\n\nUsage: cudrv help [COMMAND]...\n\n" ++
  "Arguments:\n  [COMMAND]...  Print help for the subcommand(s)\n"

/-- The help for a command, or for all. -/
def helpText : Option String → String
  | some "devices" => devicesHelp
  | some "link" => linkHelp
  | some "symbols" => symbolsHelp
  | some "compile" => compileHelp
  | some "help" => helpHelp
  | _ => programHelp

end GpuDriver.CommandLine
