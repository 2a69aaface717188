import GpuDriver.CommandLine.Run
import GpuDriver.CommandLine.Words
import GpuDriver.Temporary

/-!
# The program

Reads from the system what a command line can touch, runs the command line on it, and carries out what
came of that: files are written, texts are printed, and the exit code is returned. No vendor's library
can be called from here and no program can be run, so that only tasks on the in-process driver and
runtime compiler succeed.
-/

namespace GpuDriver.Main

open CommandLine

/-! ### What the system has -/

/-- The variables of the environment that matter. -/
def knownVariables : List String :=
  [Settings.driverVariable, Settings.nvrtcVariable, Settings.nvccVariable, Settings.dumpVariable,
    Settings.debugVariable, Environment.temporaryVariable, Environment.programsVariable,
    Environment.librariesVariable]

/-- Reads variables of the environment. -/
def readEnvironment (env : Environment) : List String → IO Environment
  | [] => return env
  | name :: rest => do
    match ← IO.getEnv name with
    | none => readEnvironment env rest
    | some value => readEnvironment (env.insert name (Utf8.encode value)) rest

/-- A place as the system spells it. -/
def spelled (place : Place) : String :=
  "/" ++ "/".intercalate (place.map Utf8.decodeLossy)

/-- What the system has at a place in a directory. What is there without being a file counts as a
directory. -/
def nodeAt (place : Place) : IO (Option FileNode) := do
  match ← (IO.FS.readBinFile (spelled place)).toBaseIO with
  | .ok contents => return some (.file contents.toList)
  | .error (.noFileOrDirectory ..) => return none
  | .error _ => return some .directory

/-- The tree with what the system has along components that start at a place. -/
def observe (t : FileTree) (place : Place) : List Bytes → IO FileTree
  | [] => return t
  | c :: rest =>
    if c.isEmpty || c == [Path.dot] then observe t place rest
    else if c == [Path.dot, Path.dot] then observe t place.dropLast rest
    else do
      match ← nodeAt (place ++ [c]) with
      | none => return t
      | some node => observe (t.put (place ++ [c]) node) (place ++ [c]) rest

/-- The tree with what the system has along paths. -/
def observePaths (t : FileTree) : List Path → IO FileTree
  | [] => return t
  | path :: rest => do
    let t ← observe t (if Path.isAbsolute path then [] else t.directory) (Path.components path)
    observePaths t rest

/-- The paths that a run can touch. -/
def touchedPaths (words : List Bytes) (env : Environment) : List Path :=
  let settings := Settings.ofEnvironment env
  let named := match Invocation.parse words with
    | .ok i => i.task.paths
    | .error _ => []
  let libraries := (settings.driverCandidates ++ settings.nvrtcCandidates).flatMap
    (Library.places env.libraryDirectories)
  env.temporaryParent :: libraries ++ named

/-- The world that a run starts in. -/
def readWorld (words : List Bytes) : IO (World (Bench Unit)) := do
  let environment ← readEnvironment .empty knownVariables
  let start ← IO.currentDir
  let directory := Utf8.encode start.toString
  let t ← observePaths { directory := FileTree.placeOf directory } [directory]
  let files ← observePaths t (touchedPaths words environment)
  return {
    native := { vendor := () }
    files
    environment
    settings := .ofEnvironment environment }

/-! ### What a run leaves -/

/-- The machine that the world is on: it has no vendor's library and no programs. -/
def machine (before : World (Bench Unit)) : Machine Unit where
  opener := Library.systemOpener [] before.environment.libraryDirectories before.files
  native := fun _ _ => ({ code := 0 }, ())
  programs := fun _ => none
  makeTemporary := FileTree.makeNumbered

/-- Writes files. -/
def writeFiles : List (Place × Bytes) → IO Unit
  | [] => return ()
  | (place, contents) :: rest => do
    IO.FS.writeBinFile (spelled place) ⟨contents.toArray⟩
    writeFiles rest

/-- Prints octets. -/
def print (stream : IO.FS.Stream) (octets : Bytes) : IO Unit := do
  stream.write ⟨octets.toArray⟩
  stream.flush

end GpuDriver.Main

/-- Runs the program. -/
def main (words : List String) : IO UInt32 := do
  let words := words.map GpuDriver.Utf8.encode
  let before ← GpuDriver.Main.readWorld words
  let (code, after) := GpuDriver.CommandLine.run (GpuDriver.Main.machine before)
    GpuDriver.CommandLine.Invocation.parse words before
  GpuDriver.Main.writeFiles (after.files.changedSince before.files)
  GpuDriver.Main.print (← IO.getStdout) after.output
  GpuDriver.Main.print (← IO.getStderr) after.console
  return code.toUInt32
