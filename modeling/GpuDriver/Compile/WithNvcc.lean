import GpuDriver.Compile.Report
import GpuDriver.Platform

/-!
# Compiling with the command-line compiler

The source is written to a directory made for this compilation, and the compiler is run there. The
directory is removed afterwards, unless the compiler refused the source: then it is kept for inspection.
-/

namespace GpuDriver.Compile

variable {σ : Type} (p : Platform σ)

/-- The options that the compiler is given before the source. -/
def nvccOptions (settings : Settings) (options : List String) (arch : String) (type : CodeType) :
    List String :=
  ["--" ++ type.name, "-gencode=arch=compute_" ++ arch ++ ",code=sm_" ++ arch] ++ options ++
    debugOptions settings

/-- What stands before the first dot of a file's name, or `kern` if nothing does. -/
def fileStem (filename : String) : String :=
  let stem := Text.firstPiece (· == '.') filename.toList
  if stem.isEmpty then "kern" else String.ofList stem

/-- The files of a compilation. -/
structure WorkFiles where
  /-- The directory made for it. -/
  root : Path
  /-- The source. -/
  source : Path
  /-- The result. -/
  result : Path
deriving DecidableEq, Repr

/-- The files of a compilation in the directory `root`. -/
def WorkFiles.inside (root : Path) (filename : String) (type : CodeType) : WorkFiles where
  root
  source := Path.join root (Utf8.encode (fileStem filename ++ ".cu"))
  result := Path.join root (Utf8.encode (fileStem filename ++ "." ++ type.name))

/-- Makes a directory for a compilation. -/
def makeWorkDirectory : Act σ Error Path := fun w =>
  match p.makeTemporary w.environment.temporaryParent w.files with
  | .error e => (.error (.io e), w)
  | .ok (root, files) => (.ok root, { w with files })

/-- The world without a compilation's directory. -/
def removeWorkDirectory (root : Path) (w : World σ) : World σ :=
  { w with files := w.files.removeDirectory root }

/-- Writes the source and runs the compiler on it. -/
def runNvcc (work : WorkFiles) (nvcc : Path) (options : List String) (source : String) :
    Act σ Error Finished := do
  (Act.writeFile work.source (Utf8.encode source)).mapError .io
  let environment ← Act.look (·.environment)
  (p.runCommand {
    program := nvcc
    arguments := options.map Utf8.encode ++ [work.source]
    directory := work.root
    search := environment.programDirectories }).mapError (.spawn nvcc)

/-- Reads what the compiler wrote. -/
def readResult (work : WorkFiles) (type : CodeType) : Act σ Error Code := do
  let files ← Act.look (·.files)
  let bytes ← (Act.ofExcept (files.read work.result)).mapError .io
  match type with
  | .cubin => return .cubin bytes
  | .ptx =>
    match Utf8.decode? bytes with
    | none => Act.fail .invalidPtx
    | some text => return .ptx text

/-- What is left of a compilation that the compiler refused. -/
def nvccFailure (work : WorkFiles) (nvcc : Path) (given options : List String) (source : String)
    (finished : Finished) : Failure where
  compiler := .nvcc
  message :=
    "`nvcc` command returns non-zero exit status. \ncommand: " ++ Path.display nvcc ++ " " ++
      Text.joined " " given ++ " " ++ Path.display work.source ++ "\nreturn-code: " ++
      finished.status.display ++ "\nstdout/stderr: \n" ++
      Utf8.decodeLossy finished.output ++ Utf8.decodeLossy finished.errors
  source
  name := Path.display work.source
  options

/-- Compiles a source for an architecture. -/
def withNvcc (source : String) (options : List String) (arch filename : String)
    (type : CodeType) : Act σ Error Code := do
  let settings ← Act.look (·.settings)
  let root ← makeWorkDirectory p
  let work := WorkFiles.inside root filename type
  let given := nvccOptions settings options arch type
  let finished ← (runNvcc p work settings.nvcc given source).orElseClean
    (removeWorkDirectory root)
  if finished.status = .exited 0 then
    (readResult work type).thenClean (removeWorkDirectory root)
  else
    let failure := nvccFailure work settings.nvcc given options source finished
    Act.change (report failure)
    Act.change fun w => w.warn ("nvcc failed; sources kept in " ++ Path.display root)
    Act.fail (.compile failure)

end GpuDriver.Compile
