import GpuDriver.Text.Utf8

/-!
# Scanning command lines

A command line is read word by word. A word that begins with two hyphens is a long option, perhaps with
its value behind an equals sign; one that begins with a single hyphen is a row of short options, the
last of them perhaps with its value attached. An option that takes a value and has none attached takes
the next word, unless that looks like an option. Behind the word `--` every word counts as it stands.

An option that takes its value from a word of its own is weighed only when the next option or plain word
comes, or at the end; the name of a command does not weigh it. So what stands behind the name of a
command is read first, and only then the last option in front of it is found good or bad.
-/

namespace GpuDriver.CommandLine

/-- An option that a command knows. -/
structure Rule where
  /-- What it is called here. -/
  key : String
  /-- Its name behind two hyphens, if it has one. -/
  long : Option String
  /-- Its letter behind a single hyphen, if it has one. -/
  short : Option Char
  /-- The values that it takes; an option without is a flag. -/
  accepts : Option (Bytes → Bool)
  /-- It can be given more than once. -/
  repeatable : Bool := false

/-- Why scanning stops. -/
inductive Stop
  /-- The command line is not used as it should be. -/
  | usage
  /-- Help is asked for, for the command named or for all. -/
  | help (command : Option String)
  /-- The version is asked for. -/
  | version
deriving DecidableEq, Repr

/-- What a word of a command line turned out to be. -/
inductive Item
  /-- An option, with its value if it takes one. -/
  | option (key : String) (value : Option Bytes)
  /-- A plain word. -/
  | plain (word : Bytes)
  /-- A word behind `--`, where those are kept apart. -/
  | apart (word : Bytes)
deriving DecidableEq, Repr

/-- A command as far as scanning goes. -/
structure Level where
  /-- Its name; none for the program itself. -/
  name : Option String
  /-- The options that it knows. -/
  rules : List Rule
  /-- How many plain words it takes at most; any number if there is no limit. -/
  room : Option Nat
  /-- The plain words that it takes. -/
  accepts : Bytes → Bool := fun _ => true
  /-- The words that it takes behind `--`, if it keeps those apart; otherwise they are plain words. -/
  acceptsApart : Option (Bytes → Bool) := none
  /-- The commands that it leads to. -/
  commands : List String := []

/-! ### The shape of a word -/

/-- The hyphen. -/
def hyphen : UInt8 := 0x2D

/-- The equals sign. -/
def equals : UInt8 := 0x3D

/-- What a word looks like. -/
inductive Shape
  /-- Two hyphens. -/
  | divider
  /-- Two hyphens with a name behind them, and what is behind the first equals sign. -/
  | long (name : Bytes) (value : Option Bytes)
  /-- A hyphen with letters behind it. -/
  | short (letters : Bytes)
  /-- Anything else. -/
  | word
deriving DecidableEq, Repr

/-- What stands in front of the first equals sign and behind it. -/
def splitEquals (word : Bytes) : Bytes × Option Bytes :=
  (word.takeWhile (· != equals), (word.dropWhile (· != equals)).tail?)

/-- The shape of a word; a single hyphen alone is a word. -/
def Shape.ofWord (word : Bytes) : Shape :=
  if word = [hyphen, hyphen] then .divider
  else if [hyphen, hyphen].isPrefixOf word then
    .long (splitEquals (word.drop 2)).1 (splitEquals (word.drop 2)).2
  else if word.head? = some hyphen ∧ 1 < word.length then .short word.tail
  else .word

/-! ### Reading -/

/-- How far the words have been read. -/
structure Progress where
  /-- What was found. -/
  items : List Item := []
  /-- An option that is still to be weighed; and its value, if that has come. -/
  waiting : Option (Rule × Option Bytes) := none
  /-- The word `--` has been read. -/
  divided : Bool := false

namespace Progress

/-- An option waits for its value. -/
def lacksValue (p : Progress) : Bool := p.waiting.any (·.2.isNone)

/-- The option has been found before. -/
def has (p : Progress) (r : Rule) : Bool :=
  p.items.any fun | .option key _ => key == r.key | _ => false

/-- Adds an item. -/
def push (p : Progress) (item : Item) : Progress := { p with items := p.items ++ [item] }

/-- Adds an option, which must not come twice unless it may, with a value that it takes. -/
def weigh (p : Progress) (r : Rule) (value : Option Bytes) : Except Stop Progress :=
  if !r.repeatable && p.has r then .error .usage
  else match r.accepts, value with
    | none, none => .ok (p.push (.option r.key none))
    | some accepts, some v =>
      if accepts v then .ok (p.push (.option r.key (some v))) else .error .usage
    | _, _ => .error .usage

/-- Weighs the option that is still to be weighed. -/
def settle (p : Progress) : Except Stop Progress :=
  match p.waiting with
  | none => .ok p
  | some (r, value) => { p with waiting := none }.weigh r value

/-- Stops once what came before has been weighed. -/
def stop (p : Progress) (s : Stop) : Except Stop Progress := do
  let _ ← p.settle
  .error s

/-- Reads an option: a flag or an attached value is weighed at once, a value to come is waited for. -/
def option (p : Progress) (r : Rule) (value : Option Bytes) : Except Stop Progress := do
  let p ← p.settle
  if r.accepts.isSome && value.isNone then return { p with waiting := some (r, none) }
  else p.weigh r value

end Progress

namespace Level

/-- The option with a long name. -/
def longRule? (l : Level) (name : Bytes) : Option Rule :=
  l.rules.find? fun r => (r.long.map Utf8.encode) == some name

/-- The option with a letter. -/
def shortRule? (l : Level) (letter : UInt8) : Option Rule :=
  l.rules.find? fun r => (r.short.map fun c => c.toNat) == some letter.toNat

/-- Reads a long option. -/
def readLong (l : Level) (p : Progress) (name : Bytes) (value : Option Bytes) :
    Except Stop Progress :=
  if name == Utf8.encode "help" then
    if value.isSome then .error .usage else p.stop (.help l.name)
  else if name == Utf8.encode "version" && l.name.isNone then
    if value.isSome then .error .usage else p.stop .version
  else match l.longRule? name with
    | none => .error .usage
    | some r => p.option r value

/-- The value attached to a short option, which an equals sign may set off. -/
def attached : Bytes → Option Bytes
  | [] => none
  | c :: rest => some (if c == equals then rest else c :: rest)

/-- Reads a row of short options. -/
def readShort (l : Level) (p : Progress) : Bytes → Except Stop Progress
  | [] => .ok p
  | letter :: rest =>
    if letter.toNat = 'h'.toNat then p.stop (.help l.name)
    else if letter.toNat = 'V'.toNat ∧ l.name.isNone then p.stop .version
    else match l.shortRule? letter with
      | none => .error .usage
      | some r =>
        if r.accepts.isSome then p.option r (attached rest)
        else (p.option r none).bind fun p => readShort l p rest

/-- How many plain words have been found. -/
def plainCount (items : List Item) : Nat :=
  items.countP fun | .plain _ => true | _ => false

/-- There is room for one more plain word. -/
def hasRoom (l : Level) (items : List Item) : Bool := l.room.all fun n => plainCount items < n

/-- Reads a word that is neither an option nor the value of one. -/
def readPlain (l : Level) (p : Progress) (word : Bytes) : Except Stop Progress := do
  let p ← p.settle
  match if p.divided then l.acceptsApart else none with
  | some accepts => if accepts word then return p.push (.apart word) else .error .usage
  | none =>
    if l.hasRoom p.items && l.accepts word then return p.push (.plain word) else .error .usage

/-- Reads a word that is not the name of a command. -/
def readWord (l : Level) (p : Progress) (word : Bytes) : Except Stop Progress :=
  if p.divided then l.readPlain p word
  else match Shape.ofWord word with
    | .divider => .ok { p with divided := true }
    | .long name value => l.readLong p name value
    | .short letters => l.readShort p letters
    | .word =>
      match p.waiting with
      | some (r, none) => .ok { p with waiting := some (r, some word) }
      | _ => l.readPlain p word

/-- The command that a word names; while an option waits for its value, and behind `--`, none is
named. -/
def command? (l : Level) (p : Progress) (word : Bytes) : Option String :=
  if p.divided || p.lacksValue then none else l.commands.find? fun c => Utf8.encode c == word

/-- Reads words up to the name of a command; that name and the words behind it, if there is one. -/
def scan (l : Level) (p : Progress) :
    List Bytes → Except Stop (Progress × Option (String × List Bytes))
  | [] => .ok (p, none)
  | word :: rest =>
    match l.command? p word with
    | some name => .ok (p, some (name, rest))
    | none => (l.readWord p word).bind fun p => scan l p rest

/-- Reads all words of a command that leads to no others. -/
def read (l : Level) (words : List Bytes) : Except Stop (List Item) := do
  let (p, _) ← l.scan {} words
  let p ← p.settle
  return p.items

end Level

/-! ### What the items say -/

/-- The flag is given. -/
def hasFlag (key : String) (items : List Item) : Bool := items.contains (.option key none)

/-- The values that an option is given. -/
def values (key : String) (items : List Item) : List Bytes :=
  items.filterMap fun | .option k v => if k = key then v else none | _ => none

/-- The plain words. -/
def plainWords (items : List Item) : List Bytes :=
  items.filterMap fun | .plain word => some word | _ => none

/-- The words behind `--` that are kept apart. -/
def wordsApart (items : List Item) : List Bytes :=
  items.filterMap fun | .apart word => some word | _ => none

end GpuDriver.CommandLine
