import GpuDriver.IoError
import GpuDriver.Path
import GpuDriver.Table

/-!
# File trees

The files that a program sees: directories, files with their contents, sinks, second names of places,
and the directory that relative paths start from. A path is walked component by component; every
component but the last must lead to a directory.
-/

namespace GpuDriver

/-- Things that are written to as if they were files, and that keep nothing. -/
inductive Sink
  /-- Loses what is written to it. -/
  | null
  /-- Loses what is written to it, and is never read to its end. -/
  | zero
  /-- Has no room for anything. -/
  | full
  /-- The standard output of the program. -/
  | output
  /-- The standard error of the program. -/
  | errors
deriving DecidableEq, Repr

/-- What a path can lead to. -/
inductive FileNode
  /-- A directory. -/
  | directory
  /-- A file with its contents. -/
  | file (contents : Bytes)
  /-- A sink. -/
  | sink (s : Sink)
deriving DecidableEq, Repr

/-- A place in a tree: the components from the root on, none of them empty or made of dots. -/
abbrev Place := List Bytes

/-- Directories and files, and where relative paths start. -/
structure FileTree where
  /-- What is at each place; the root is always a directory. -/
  nodes : Table Place FileNode := .empty
  /-- Second names: a place with the place that it stands for, which is no second name itself. -/
  links : Table Place Place := .empty
  /-- The working directory. -/
  directory : Place := []

namespace FileTree

/-- What is at a place. -/
def at? (t : FileTree) (place : Place) : Option FileNode :=
  if place.isEmpty then some .directory else t.nodes.get? place

/-- The place that a place stands for. -/
def resolved (t : FileTree) (place : Place) : Place := (t.links.get? place).getD place

/-- The place that components lead to from `place`, and what is there. -/
def walk (t : FileTree) (place : Place) : List Bytes → Except IoError (Place × Option FileNode)
  | [] => .ok (place, t.at? place)
  | c :: rest =>
    match t.at? place with
    | none => .error .notFound
    | some .directory =>
      if c.isEmpty || c == [Path.dot] then walk t place rest
      else if c == [Path.dot, Path.dot] then walk t place.dropLast rest
      else if c.length > Path.componentLimit then .error .nameTooLong
      else walk t (t.resolved (place ++ [c])) rest
    | some _ => .error .notADirectory

/-- Why a path cannot be walked at all. -/
def pathFault? (p : Path) : Option IoError :=
  if p.contains 0 then some .nulInPath
  else if p.isEmpty then some .notFound
  else if p.length > Path.lengthLimit then some .nameTooLong
  else none

/-- The place that a path starts from. -/
def start (t : FileTree) (p : Path) : Place := if Path.isAbsolute p then [] else t.directory

/-- The place that a path leads to, and what is there; only the last component may lead to nothing. -/
def locate (t : FileTree) (p : Path) : Except IoError (Place × Option FileNode) :=
  match pathFault? p with
  | some e => .error e
  | none => t.walk (t.start p) (Path.components p)

/-- The tree seen from the directory at a path. -/
def seenFrom (t : FileTree) (p : Path) : Except IoError FileTree :=
  match t.locate p with
  | .error e => .error e
  | .ok (_, none) => .error .notFound
  | .ok (place, some .directory) => .ok { t with directory := place }
  | .ok (_, some _) => .error .notADirectory

/-- The contents of the file at a path. Nothing is found in a sink. -/
def read (t : FileTree) (p : Path) : Except IoError Bytes :=
  match t.locate p with
  | .error e => .error e
  | .ok (_, none) => .error .notFound
  | .ok (_, some .directory) => .error .isADirectory
  | .ok (_, some (.file contents)) => .ok contents
  | .ok (_, some (.sink _)) => .ok []

/-- The text in the file at a path. -/
def readText (t : FileTree) (p : Path) : Except IoError String :=
  match t.read p with
  | .error e => .error e
  | .ok contents =>
    match Utf8.decode? contents with
    | none => .error .notText
    | some text => .ok text

/-- The tree with a node at a place. -/
def put (t : FileTree) (place : Place) (node : FileNode) : FileTree :=
  { t with nodes := t.nodes.insert place node }

/-- The place that a path from the root names, if none of its components is made of dots. -/
def placeOf (p : Path) : Place := (Path.components p).filter fun c => !c.isEmpty

/-- The files that are new in the tree or have other contents than in the tree `before`. -/
def changedSince (t before : FileTree) : List (Place × Bytes) :=
  t.nodes.entries.filterMap fun (place, node) =>
    match node with
    | .file contents => if before.at? place = some node then none else some (place, contents)
    | _ => none

/-- The path ends with a slash behind its last component. -/
def namesDirectory (p : Path) : Bool :=
  p.getLast? == some Path.slash && !(Path.withoutFinalSlash p).isEmpty

/-- The components of the directory that the last component is in, with a dot behind them: a walk along
them gets to its end only if that directory is there. -/
def aboveLast (p : Path) : List Bytes :=
  (Path.components (Path.withoutFinalSlash p)).dropLast ++ [[Path.dot]]

/-- The place of what is to be written at a path, and what is there. Nothing is written where the path
ends with a slash, whatever is there. -/
def placeForFile (t : FileTree) (p : Path) : Except IoError (Place × Option FileNode) :=
  if namesDirectory p then
    match pathFault? p with
    | some e => .error e
    | none => (t.walk (t.start p) (aboveLast p)).bind fun _ => .error .isADirectory
  else match t.locate p with
    | .error e => .error e
    | .ok (_, some .directory) => .error .isADirectory
    | .ok found => .ok found

/-- The tree after contents were written at a path. -/
def write (t : FileTree) (p : Path) (contents : Bytes) : Except IoError FileTree :=
  match t.placeForFile p with
  | .error e => .error e
  | .ok (_, some (.sink .full)) => if contents.isEmpty then .ok t else .error .noSpace
  | .ok (_, some (.sink _)) => .ok t
  | .ok (place, _) => .ok (t.put place (.file contents))

/-- The sink at a path, if there is one. -/
def sink? (t : FileTree) (p : Path) : Option Sink :=
  match t.locate p with
  | .ok (_, some (.sink s)) => some s
  | _ => none

/-- The tree without what is at a place and below it. -/
def removeAll (t : FileTree) (place : Place) : FileTree :=
  { t with nodes := t.nodes.filter fun other _ => !place.isPrefixOf other }

/-- The tree without what is at a path and below it. -/
def removeDirectory (t : FileTree) (p : Path) : FileTree :=
  match t.locate p with
  | .ok (place, some _) => t.removeAll place
  | _ => t

end FileTree

end GpuDriver
