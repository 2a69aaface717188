import GpuDriver.CommandLine.Help
import GpuDriver.CommandLine.Invocation
import GpuDriver.CommandLine.Scan
import GpuDriver.Text.Numeral

/-!
# The words of a command line

The commands with their options and plain words, and a reader for them. Two options can stand before and
behind the name of the command; where both places give one, the one behind the name counts.
-/

namespace GpuDriver.CommandLine

/-! ### Values -/

/-- A number of a device. -/
def deviceNumber? (value : Bytes) : Option Int :=
  ((Utf8.decode? value).bind fun text => Text.int64? text.toList).filter fun k =>
    -0x80000000 ≤ k && k < 0x80000000

/-- A kind of image. -/
def imageKind? (value : Bytes) : Option ImageKind :=
  (Utf8.decode? value).bind fun text => (ImageKind.parse text).toOption

/-- A path must not be empty. -/
def isPath (value : Bytes) : Bool := !value.isEmpty

/-- A text must be text. -/
def isText (value : Bytes) : Bool := (Utf8.decode? value).isSome

/-! ### Commands -/

/-- The options of every command. -/
def globalRules : List Rule := [
  { key := "mock", long := some "mock", short := none, accepts := none },
  { key := "device", long := some "device", short := none,
    accepts := some fun v => (deviceNumber? v).isSome }]

/-- The option for the file that is written. -/
def outRule : Rule := { key := "o", long := none, short := some 'o', accepts := some isPath }

/-- The program itself. -/
def program : Level where
  name := none
  rules := globalRules
  room := some 0
  commands := ["devices", "link", "symbols", "compile", "help"]

/-- The options of a command. -/
def rulesOf : String → List Rule
  | "link" => globalRules ++ [outRule,
      { key := "kind", long := some "kind", short := none,
        accepts := some fun v => (imageKind? v).isSome }]
  | "symbols" => globalRules ++ [
      { key := "function", long := some "function", short := none, accepts := some isText,
        repeatable := true },
      { key := "global", long := some "global", short := none, accepts := some isText,
        repeatable := true }]
  | "compile" => globalRules ++ [outRule,
      { key := "code_type", long := some "code-type", short := none, accepts := some isText },
      { key := "nvrtc", long := some "nvrtc", short := none, accepts := none },
      { key := "arch", long := some "arch", short := none, accepts := some isText }]
  | _ => globalRules

/-- How many plain words a command takes at most. -/
def roomOf : String → Option Nat
  | "link" => none
  | "symbols" | "compile" => some 1
  | _ => some 0

/-- A command. Only compiling keeps the words behind `--` apart: they go on to the compiler. -/
def command (name : String) : Level where
  name := some name
  rules := rulesOf name
  room := roomOf name
  accepts := isPath
  acceptsApart := if name = "compile" then some isText else none

/-- The texts of values. -/
def texts (vs : List Bytes) : List String := vs.filterMap Utf8.decode?

/-- The only member of a list. -/
def single : List Bytes → Except Stop Bytes
  | [v] => .ok v
  | _ => .error .usage

/-- The task of a command with the given items. -/
def taskOf (name : String) (items : List Item) : Except Stop Task :=
  match name with
  | "devices" => return .devices
  | "link" => do
    let out ← single (values "o" items)
    return .link (plainWords items) out ((values "kind" items).head?.bind imageKind?)
  | "symbols" => do
    let module ← single (plainWords items)
    return .symbols module (texts (values "function" items)) (texts (values "global" items))
  | "compile" => do
    let source ← single (plainWords items)
    let out ← single (values "o" items)
    return .compile source out ((texts (values "code_type" items)).head?.getD "cubin")
      (hasFlag "nvrtc" items) (texts (values "arch" items)).head? (texts (wordsApart items))
  | _ => .error .usage

/-- Help for the one command that is named, or for all if none is. -/
def helpFor : List Bytes → Stop
  | [] => .help none
  | [word] =>
    match program.commands.find? fun c => Utf8.encode c == word with
    | some name => .help (some name)
    | none => .usage
  | _ => .usage

/-- Reads the words of a command line, or stops. The words behind the name of a command are read before
the last option in front of it is weighed. -/
def readWords (words : List Bytes) : Except Stop Invocation := do
  let (before, next) ← program.scan {} words
  match next with
  | none => .error .usage
  | some ("help", rest) => .error (helpFor rest)
  | some (name, rest) =>
    let items ← (command name).read rest
    let task ← taskOf name items
    let before ← before.settle
    return {
      mock := hasFlag "mock" before.items || hasFlag "mock" items
      device :=
        ((values "device" items ++ values "device" before.items).head?.bind deviceNumber?).getD 0
      task }

/-- How the program ends where reading stops. -/
def Stop.ending : Stop → Ending
  | usage => { code := 2 }
  | help command => { code := 0, output := Utf8.encode (helpText command) }
  | version => { code := 0, output := Utf8.encode versionText }

/-- Reads the words of a command line. -/
def Invocation.parse : Reader := fun words => (readWords words).mapError Stop.ending

end GpuDriver.CommandLine
