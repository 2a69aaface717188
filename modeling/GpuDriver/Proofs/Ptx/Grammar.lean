import Mathlib.Algebra.Group.Nat.Defs
import GpuDriver.Proofs.Ptx.Complete

/-!
# A grammar of modules

A module is a header and a row of items: variables, declarations of what is defined elsewhere, and kernels
(`Module`). Its text spells it with blanks between the words and behind each item (`Module.Spells`), and
instead of a blank there may be a comment (`Module.Writes`). None of this says how a text is read; what the
module defines is said of the tree alone (`Module.symbols`).
-/

namespace GpuDriver.Ptx

open Text

/-- What is said of the characters of a list is decided by going through the list, not through all the
characters that there are. -/
instance (priority := high) decidableForallChar (p : Char → Prop) [DecidablePred p] (cs : List Char) :
    Decidable (∀ c ∈ cs, p c) :=
  List.decidableBAll p cs

/-! ### Names and numerals -/

/-- A name. -/
structure Identifier where
  /-- The first character: a letter or one of three signs. -/
  first : Char
  /-- The other characters: letters, digits and two signs. -/
  rest : List Char
  first_valid : (first.isAlpha || first == '_' || first == '$' || first == '%') = true
  rest_valid : ∀ c ∈ rest, (c.isAlphanum || c == '_' || c == '$') = true

/-- The characters of a name. -/
def Identifier.chars (name : Identifier) : List Char := name.first :: name.rest

/-- A row of decimal digits. -/
structure Numeral where
  /-- The digits, the first of them leading. -/
  digits : List Char
  ne_nil : digits ≠ []
  valid : ∀ c ∈ digits, c.isDigit = true

/-- The number that a numeral stands for. -/
def Numeral.value (n : Numeral) : Nat := digitsValue n.digits

/-! ### The header -/

/-- What a module begins with. -/
structure Header where
  /-- The version before the point. -/
  major : Numeral
  /-- The version behind the point. -/
  minor : Numeral
  /-- The target: letters, digits and underscores. -/
  target : List Char
  target_ne_nil : target ≠ []
  target_valid : ∀ c ∈ target, (c.isAlphanum || c == '_') = true
  /-- The size of addresses, if it is given. -/
  addressSize : Option Numeral

namespace Header

/-- The words of a header but the last. -/
def front (h : Header) : List (List Char) :=
  [".version".toList, h.major.digits ++ '.' :: h.minor.digits, ".target".toList] ++
    match h.addressSize with
    | none => []
    | some _ => [h.target, ".address_size".toList]

/-- The last word of a header. -/
def last (h : Header) : List Char :=
  match h.addressSize with
  | none => h.target
  | some n => n.digits

end Header

/-! ### Variables -/

/-- Where a variable is kept. -/
inductive StateSpace
  | global | const
deriving DecidableEq

/-- The word for a state space. -/
def StateSpace.word : StateSpace → List Char
  | .global => ".global".toList
  | .const => ".const".toList

/-- What the elements of a variable are. -/
inductive ElementKind
  | bits | unsigned | signed | float
deriving DecidableEq

/-- The letter for a kind of elements. -/
def ElementKind.letter : ElementKind → Char
  | .bits => 'b'
  | .unsigned => 'u'
  | .signed => 's'
  | .float => 'f'

/-- How wide the elements of a variable are. -/
inductive ElementWidth
  | w8 | w16 | w32 | w64
deriving DecidableEq

namespace ElementWidth

/-- The width in bits, in digits. -/
def digits : ElementWidth → List Char
  | .w8 => "8".toList
  | .w16 => "16".toList
  | .w32 => "32".toList
  | .w64 => "64".toList

/-- The width in octets. -/
def bytes : ElementWidth → Nat
  | .w8 => 1
  | .w16 => 2
  | .w32 => 4
  | .w64 => 8

end ElementWidth

/-- An initial value. -/
structure InitialValue where
  /-- Its text: numbers, commas and blanks, and braces, which are balanced. -/
  chars : List Char
  valid : ∀ c ∈ chars, (c.isDigit || isBlank c || ['.', '-', ',', '\x7b', '\x7d'].contains c) = true
  balanced : balanced chars = true

/-- A variable that is defined. -/
structure Variable where
  /-- It is said to be visible elsewhere. -/
  visible : Bool
  /-- Where it is kept. -/
  space : StateSpace
  /-- Its alignment, if it is given. -/
  align : Option Numeral
  /-- The kind of its elements. -/
  kind : ElementKind
  /-- The width of its elements. -/
  width : ElementWidth
  /-- Its name. -/
  name : Identifier
  /-- How many elements there are along each of its dimensions. -/
  extents : List Numeral
  /-- Its initial value, if it is given. -/
  value : Option InitialValue
  fits : width.bytes * (extents.map Numeral.value).prod < wordBound

/-- The word that says that something is visible elsewhere, if it is. -/
def visibleWords (visible : Bool) : List (List Char) := if visible then [".visible".toList] else []

/-- The words that give an alignment, if it is given. -/
def alignWords : Option Numeral → List (List Char)
  | none => []
  | some n => [".align".toList, n.digits]

namespace Variable

/-- The octets of a variable. -/
def bytes (v : Variable) : Nat := v.width.bytes * (v.extents.map Numeral.value).prod

/-- The words in front of the name. -/
def front (v : Variable) : List (List Char) :=
  visibleWords v.visible ++ v.space.word ::
    (alignWords v.align ++ ['.' :: v.kind.letter :: v.width.digits])

/-- The name with the extents. -/
def declarator (v : Variable) : List Char :=
  v.name.chars ++ v.extents.flatMap fun n => '[' :: (n.digits ++ [']'])

/-- The initial value behind its sign, if it is given. -/
def valueChars (v : Variable) : List Char :=
  match v.value with
  | none => []
  | some value => '=' :: value.chars

end Variable

/-! ### What is defined elsewhere -/

/-- A declaration of something that is defined elsewhere. -/
structure External where
  /-- It is a function, not a variable. -/
  isFunction : Bool
  /-- The rest of the declaration. -/
  chars : List Char
  valid : ∀ c ∈ chars, c ≠ ';' ∧ isBrace c = false
  no_entry : ".entry".toList ∉ words chars

/-- The words that a declaration of something external begins with. -/
def External.front (e : External) : List (List Char) :=
  [".extern".toList, if e.isFunction then ".func".toList else ".global".toList]

/-! ### Kernels -/

/-- The words that a kernel may not have behind its name. -/
def reservedWords : List (List Char) :=
  [".global".toList, ".const".toList, ".entry".toList, ".extern".toList]

/-- A kernel that is defined. -/
structure Kernel where
  /-- It is said to be visible elsewhere. -/
  visible : Bool
  /-- Its name. -/
  name : Identifier
  /-- What stands between the parentheses. -/
  params : List Char
  params_valid : ∀ c ∈ params, c ≠ ';' ∧ c ≠ '=' ∧ isBrace c = false
  params_words : ∀ word ∈ reservedWords, word ∉ words params
  /-- What stands between the braces: statements, here without the semicolon that ends each. -/
  statements : List (List Char)
  statements_valid : ∀ cs ∈ statements, ∀ c ∈ cs, c ≠ ';' ∧ isBrace c = false
  statements_words : ∀ cs ∈ statements, ∀ word ∈ reservedWords, word ∉ words (cs ++ [';'])

namespace Kernel

/-- The words in front of the name. -/
def front (k : Kernel) : List (List Char) := visibleWords k.visible ++ [".entry".toList]

/-- The statements, each with its semicolon. -/
def body (k : Kernel) : List Char := k.statements.flatMap fun cs => cs ++ [';']

end Kernel

/-! ### Modules -/

/-- What stands in a module behind its header. -/
inductive Item
  /-- A variable that is defined. -/
  | var (v : Variable)
  /-- Something that is defined elsewhere. -/
  | declared (e : External)
  /-- A kernel that is defined. -/
  | kernel (k : Kernel)

/-- A module. -/
structure Module where
  /-- What it begins with. -/
  header : Header
  /-- What stands behind that. -/
  items : List Item

/-- What an item defines. -/
def Item.symbols : Item → Symbols
  | .var v => ⟨[], [⟨String.ofList v.name.chars, v.bytes⟩]⟩
  | .declared _ => ⟨[], []⟩
  | .kernel k => ⟨[String.ofList k.name.chars], []⟩

/-- What a module defines. -/
def Module.symbols (m : Module) : Symbols where
  entries := m.items.flatMap fun item => item.symbols.entries
  globals := m.items.flatMap fun item => item.symbols.globals

/-! ### Texts without comments -/

/-- Blanks, or nothing. -/
def IsGap (cs : List Char) : Prop := ∀ c ∈ cs, isBlank c = true

instance (cs : List Char) : Decidable (IsGap cs) := inferInstanceAs (Decidable (∀ c ∈ cs, _))

/-- At least one blank. -/
def IsSpace (cs : List Char) : Prop := cs ≠ [] ∧ IsGap cs

instance (cs : List Char) : Decidable (IsSpace cs) := inferInstanceAs (Decidable (_ ∧ _))

/-- The text has the words in order, each with a space behind it. -/
inductive Row : List (List Char) → List Char → Prop
  /-- No words are no text. -/
  | nil : Row [] []
  /-- A word, a space, and the other words. -/
  | cons {word space cs : List Char} {ws : List (List Char)} (hs : IsSpace space) (h : Row ws cs) :
      Row (word :: ws) (word ++ space ++ cs)

/-- The text spells the item. -/
inductive Item.Spells : Item → List Char → Prop
  /-- The words in front of the name, the name with the extents, the initial value, a semicolon. -/
  | var {v : Variable} {front gap : List Char} (hf : Row v.front front) (hg : IsGap gap) :
      Item.Spells (.var v) (front ++ v.declarator ++ gap ++ v.valueChars ++ [';'])
  /-- The words that say that it is external, the rest, a semicolon. -/
  | declared {e : External} {front : List Char} (hf : Row e.front front) :
      Item.Spells (.declared e) (front ++ e.chars ++ [';'])
  /-- The words in front of the name, the name, the parameters in parentheses, the statements in
  braces. -/
  | kernel {k : Kernel} {front gap gap' gap'' : List Char} (hf : Row k.front front) (hg : IsGap gap)
      (hg' : IsGap gap') (hg'' : IsGap gap'') :
      Item.Spells (.kernel k) (front ++ k.name.chars ++ gap ++ '(' :: k.params ++ ')' :: gap' ++
        '\x7b' :: k.body ++ gap'' ++ ['\x7d'])

/-- The text spells the items in order, each with a space behind it. -/
inductive SpellsItems : List Item → List Char → Prop
  /-- No items are no text. -/
  | nil : SpellsItems [] []
  /-- An item, a space, and the other items. -/
  | cons {item : Item} {items : List Item} {cs space ds : List Char} (hi : item.Spells cs)
      (hs : IsSpace space) (h : SpellsItems items ds) :
      SpellsItems (item :: items) (cs ++ space ++ ds)

/-- The text spells the module: the header and then the items. If there are none, nothing need stand
behind the header. -/
inductive Module.Spells (m : Module) : List Char → Prop
  | mk {gap front gap' items : List Char} (hg : IsGap gap) (hf : Row m.header.front front)
      (hg' : IsGap gap') (hs : m.items ≠ [] → gap' ≠ []) (hi : SpellsItems m.items items) :
      Module.Spells m (gap ++ front ++ m.header.last ++ gap' ++ items)

/-! ### Texts with comments -/

/-- The first text is the second one with comments in the place of blanks: of line feeds, if a comment
ends with its line, and else of spaces. -/
inductive Commented : List Char → List Char → Prop
  /-- The text has ended. -/
  | nil : Commented [] []
  /-- A character that does not begin a comment. -/
  | char {c : Char} {text body : List Char}
      (opens : c = '/' → text.head? ≠ some '/' ∧ text.head? ≠ some '*') (h : Commented text body) :
      Commented (c :: text) (c :: body)
  /-- A comment up to a line feed. -/
  | line {content text body : List Char} (inside : '\n' ∉ content) (h : Commented text body) :
      Commented ('/' :: '/' :: (content ++ '\n' :: text)) ('\n' :: body)
  /-- A comment that is closed. -/
  | block {content text body : List Char} (inside : ¬ ['*', '/'] <:+: content)
      (h : Commented text body) :
      Commented ('/' :: '*' :: (content ++ '*' :: '/' :: text)) (' ' :: body)

/-- The text writes the module: it spells it, with comments in the place of blanks. -/
def Module.Writes (m : Module) (text : String) : Prop :=
  ∃ body, m.Spells body ∧ Commented text.toList body

end GpuDriver.Ptx
