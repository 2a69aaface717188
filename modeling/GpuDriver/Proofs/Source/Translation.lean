import Mathlib.Data.List.Forall2
import GpuDriver.Proofs.Ptx.Reading
import GpuDriver.Source.Translation

/-!
# What a translation defines

The text that a source is translated to is read as the source means it: it is a module, its kernels are
those of the source, and its variables are those of the source with the sizes of their types
(`read_translation`). It is read part by part: the head (`reads_head`), the declaration of a variable
(`DeviceScalar.reads`), the definition of a kernel (`reads_definition`), each of which leaves nothing
open.
-/

namespace GpuDriver.Source

open Text Ptx

/-! ### Names -/

theorem isWordChar_of_isIdentifierChar {c : Char} (h : isIdentifierChar c = true) :
    isWordChar c = true := by
  simp only [isIdentifierChar, Bool.or_eq_true, beq_iff_eq] at h
  obtain h | rfl := h
  · exact isWordChar_of_isAlphanum h
  · decide

/-- What a kernel can be called: a character or more, each of which can stand in an identifier. It may
begin with a digit. -/
structure IsKernelName (name : String) : Prop where
  ne_nil : name.toList ≠ []
  valid : ∀ c ∈ name.toList, isIdentifierChar c = true

theorem IsKernelName.isWord {name : String} (h : IsKernelName name) : IsWord name.toList :=
  ⟨h.ne_nil, fun c hc => isWordChar_of_isIdentifierChar (h.valid c hc)⟩

/-- A character that can stand in no identifier is not in a kernel's name. -/
theorem IsKernelName.not_mem {name : String} (h : IsKernelName name) {x : Char}
    (hx : isIdentifierChar x = false) : x ∉ name.toList := by
  intro hm
  rw [h.valid x hm] at hx
  cases hx

theorem isKernelName_of_finalIdentifier {head : List Char} {name : String}
    (h : finalIdentifier head = .ok (some name)) : IsKernelName name := by
  have cut : (if ((head.reverse.takeWhile isIdentifierChar).reverse).isEmpty then none
      else some (String.ofList (head.reverse.takeWhile isIdentifierChar).reverse)) = some name := by
    unfold finalIdentifier at h
    dsimp only at h
    split at h
    · split at h
      · cases h
      · exact Except.ok.inj h
    · exact Except.ok.inj h
  split at cut
  · cases cut
  rename_i nonempty
  cases cut
  refine ⟨by simpa using nonempty, fun c hc => ?_⟩
  rw [String.toList_ofList, List.mem_reverse] at hc
  exact List.mem_takeWhile_imp hc

theorem isKernelName_of_kernelName {announcement : List Char} {name : String}
    (h : kernelName announcement = .ok (some name)) : IsKernelName name := by
  unfold kernelName at h
  split at h
  · exact isKernelName_of_finalIdentifier h
  · cases h

/-- **A traversal that succeeds** finds one thing for each, in order. -/
theorem mapM_eq_ok_iff {ε α β : Type} {f : α → Except ε β} {as : List α} {bs : List β} :
    as.mapM f = .ok bs ↔ List.Forall₂ (fun a b => f a = .ok b) as bs := by
  induction as generalizing bs with
  | nil =>
    rw [List.forall₂_nil_left_iff]
    exact ⟨fun h => (Except.ok.inj h).symm, fun h => h ▸ rfl⟩
  | cons a rest ih =>
    rw [List.mapM_cons, List.forall₂_cons_left_iff]
    rcases hfirst : f a with e | b
    · simp [bind, Except.bind]
    rcases hrest : rest.mapM f with e | cs
    · simp [bind, Except.bind, ← ih, hrest]
    · simp [bind, Except.bind, pure, Except.pure, ← ih, hrest, eq_comm]

/-- It finds something for each, and it finds nothing else. -/
theorem exists_of_mapM {ε α β : Type} {f : α → Except ε β} {as : List α} {bs : List β}
    (h : as.mapM f = .ok bs) :
    (∀ a ∈ as, ∃ b ∈ bs, f a = .ok b) ∧ ∀ b ∈ bs, ∃ a ∈ as, f a = .ok b := by
  have pairs := mapM_eq_ok_iff.1 h
  clear h
  induction pairs with
  | nil => simp
  | cons first _ ih =>
    simp only [List.forall_mem_cons, List.exists_mem_cons_iff]
    grind

/-- **The kernels of a source** have such names. -/
theorem isKernelName_of_mem {source : String} {names : List String}
    (h : kernelNames source = .ok names) {name : String} (hm : name ∈ names) : IsKernelName name := by
  unfold kernelNames at h
  rcases found : (occurrences marker source.toList).mapM kernelName with e | results
  · rw [found] at h
    cases h
  rw [found] at h
  obtain rfl : results.filterMap id = names := Except.ok.inj h
  obtain ⟨result, hresult, rfl⟩ := List.mem_filterMap.1 hm
  obtain ⟨announcement, -, hname⟩ := (exists_of_mapM found).2 _ hresult
  exact isKernelName_of_kernelName hname

/-! ### Words and signs -/

/-- The text has nothing but words of a declaration, blanks and the signs. -/
def PlainBut (signs cs : List Char) : Prop :=
  ∀ c ∈ cs, isBlank c = true ∨ isWordChar c = true ∨ c ∈ signs

instance (signs cs : List Char) : Decidable (PlainBut signs cs) :=
  inferInstanceAs (Decidable (∀ c ∈ cs, _))

namespace PlainBut

variable {signs cs ds : List Char}

theorem append (hc : PlainBut signs cs) (hd : PlainBut signs ds) : PlainBut signs (cs ++ ds) :=
  List.forall_mem_append.2 ⟨hc, hd⟩

theorem cons {c : Char} (hc : isBlank c = true) (hd : PlainBut signs ds) :
    PlainBut signs (c :: ds) :=
  List.forall_mem_cons.2 ⟨Or.inl hc, hd⟩

theorem of_isWord (h : IsWord cs) : PlainBut signs cs := fun c hc => Or.inr (Or.inl (h.valid c hc))

theorem mono {signs' : List Char} (h : PlainBut signs cs) (hs : ∀ c ∈ signs, c ∈ signs') :
    PlainBut signs' cs :=
  fun c hc => (h c hc).imp_right (Or.imp_right (hs c))

/-- A character that is no blank, of no word and none of the signs is not there. -/
theorem not_mem (h : PlainBut signs cs) {x : Char}
    (hx : (isBlank x || isWordChar x || signs.contains x) = false) : x ∉ cs := by
  intro hm
  have allowed : (isBlank x || isWordChar x || signs.contains x) = true := by
    simpa [or_assoc] using h x hm
  rw [hx] at allowed
  cases allowed

theorem isBrace (h : PlainBut signs cs) (hs : ∀ c ∈ signs, Ptx.isBrace c = false) :
    ∀ c ∈ cs, Ptx.isBrace c = false := by
  intro c hc
  obtain hplain | hsign := or_assoc.2 (h c hc)
  · have plain : Plain [c] := List.forall_mem_singleton.2 hplain
    exact plain.isBrace c List.mem_cons_self
  · exact hs c hsign

end PlainBut

/-! ### The head -/

/-- The head of a translation without its comments and the line feeds around. -/
def headChars (arch : Int) : List Char :=
  ".version 7.0\n.target".toList ++ ' ' :: (("sm_".toList ++ (signedDecimal arch).toList) ++
    '\n' :: ".address_size 64".toList)

theorem mem_signedDecimal {k : Int} {c : Char} (h : c ∈ (signedDecimal k).toList) :
    c = '-' ∨ c.isDigit = true := by
  rw [signedDecimal, String.toList_append, List.mem_append] at h
  obtain h | h := h
  · split at h
    · exact Or.inl (List.mem_singleton.1 h)
    · cases h
  · rw [decimal, Nat.toList_repr] at h
    exact Or.inr (Nat.isDigit_of_mem_toDigits (by decide) (by decide) h)

/-- The characters of the name of a target. -/
theorem mem_target {arch : Int} {c : Char} (h : c ∈ "sm_".toList ++ (signedDecimal arch).toList) :
    c = '-' ∨ isWordChar c = true := by
  obtain h | h := List.mem_append.1 h
  · exact Or.inr ((by decide : ∀ c ∈ "sm_".toList, isWordChar c = true) c h)
  · exact (mem_signedDecimal h).imp_right isWordChar_of_isDigit

theorem words_headChars (arch : Int) : words (headChars arch) =
    [".version".toList, "7.0".toList, ".target".toList,
      "sm_".toList ++ (signedDecimal arch).toList, ".address_size".toList, "64".toList] := by
  have visible : ∀ c ∈ "sm_".toList ++ (signedDecimal arch).toList, isBlank c = false := by
    intro c hc
    obtain rfl | hc := mem_target hc
    · decide
    · exact isBlank_of_isWordChar hc
  have front : words ".version 7.0\n.target".toList =
      [".version".toList, "7.0".toList, ".target".toList] := by decide
  have back : words ".address_size 64".toList = [".address_size".toList, "64".toList] := by decide
  have nonempty : "sm_".toList ++ (signedDecimal arch).toList ≠ [] :=
    List.append_ne_nil_of_left_ne_nil (by decide) _
  have behind : words (("sm_".toList ++ (signedDecimal arch).toList) ++
      '\n' :: ".address_size 64".toList) =
        ["sm_".toList ++ (signedDecimal arch).toList, ".address_size".toList, "64".toList] := by
    rw [words_append_newline (_ ++ _) _, words_eq_singleton nonempty visible, back]
    rfl
  unfold headChars
  rw [words_append_cons (by decide) _ (_ ++ _ :: _), front, behind]
  rfl

theorem plain_headChars (arch : Int) : PlainBut ['-'] (headChars arch) := by
  have target : PlainBut ['-'] ("sm_".toList ++ (signedDecimal arch).toList) := fun c hc => by
    obtain rfl | hc := mem_target hc
    · exact Or.inr (Or.inr List.mem_cons_self)
    · exact Or.inr (Or.inl hc)
  have front : PlainBut ['-'] ".version 7.0\n.target".toList := by decide
  have back : PlainBut ['-'] ".address_size 64".toList := by decide
  exact front.append (.cons (by decide) (target.append (.cons (by decide) back)))

/-- **The head** defines nothing. -/
theorem reads_head (arch : Int) : Reads (headChars arch) ⟨[], []⟩ := by
  have plain := plain_headChars arch
  have target : ("sm_".toList ++ (signedDecimal arch).toList).head? ≠ some '.' := by
    rw [List.head?_append_of_ne_nil _ (by decide)]
    decide
  have front : ∀ word ∈ [".version".toList, "7.0".toList, ".target".toList],
      Inert word ∧ word ≠ ".entry".toList := by decide
  have back : ∀ word ∈ [".address_size".toList, "64".toList],
      Inert word ∧ word ≠ ".entry".toList := by decide
  refine reads_inert (plain.not_mem (by decide)) (plain.not_mem (by decide))
    (plain.isBrace (by decide)) ?_
  rw [words_headChars]
  exact List.forall_mem_append.2 ⟨front, List.forall_mem_cons.2
    ⟨⟨inert_of_head? target, ne_entry_of_head? target⟩, back⟩⟩

/-! ### Variables -/

/-- The variable that a loader finds. -/
def DeviceScalar.global (s : DeviceScalar) : Global := ⟨s.name, s.type.bytes⟩

/-- What the elements of a type are. -/
def ScalarType.kind : ScalarType → ElementKind
  | b8 => .bits
  | s32 | s64 => .signed
  | u32 | u64 => .unsigned
  | f32 | f64 => .float

/-- How wide the elements of a type are. -/
def ScalarType.width : ScalarType → ElementWidth
  | b8 => .w8
  | s32 | u32 | f32 => .w32
  | s64 | u64 | f64 => .w64

/-- An identifier is a name of the grammar. -/
theorem exists_identifier {name : String} (h : isIdentifier name = true) :
    ∃ n : Identifier, n.chars = name.toList := by
  unfold isIdentifier at h
  split at h
  · cases h
  rename_i first rest hname
  simp only [Bool.and_eq_true, Bool.or_eq_true, List.all_eq_true, isIdentifierChar] at h
  refine ⟨⟨first, rest, ?_, fun c hc => ?_⟩, hname.symm⟩
  · obtain h | h := h.1 <;> simp [h]
  · obtain h | h := h.2 c hc <;> simp [h]

/-- The declaration of a variable without the line feed behind it. -/
def DeviceScalar.chars (s : DeviceScalar) : List Char :=
  ".visible .global .align ".toList ++ (decimal s.type.bytes).toList ++ ' ' ::
    (s.type.directive.toList ++ [' ']) ++ s.name.toList ++ [] ++ [] ++ [';']

theorem DeviceScalar.toList_declaration (s : DeviceScalar) :
    s.declaration.toList = s.chars ++ ['\n'] := by
  have blank : " ".toList = [' '] := rfl
  have ending : ";\n".toList = [';'] ++ ['\n'] := rfl
  unfold declaration chars
  simp only [String.toList_append, blank, ending, List.append_assoc, List.cons_append,
    List.nil_append]

theorem DeviceScalar.plain {s : DeviceScalar} (h : isIdentifier s.name = true) :
    PlainBut [';'] s.chars := by
  obtain ⟨name, hname⟩ := exists_identifier h
  have literal : PlainBut [';'] (".visible .global .align ".toList ++ (decimal s.type.bytes).toList ++
      ' ' :: (s.type.directive.toList ++ [' '])) := by cases s.type <;> decide
  have named : PlainBut [';'] s.name.toList := hname ▸ .of_isWord name.isWord
  have empty : PlainBut [';'] [] := by decide
  exact (((literal.append named).append empty).append empty).append (by decide)

/-- **The declaration of a variable** declares it with the size of its type. -/
theorem DeviceScalar.reads {s : DeviceScalar} (h : isIdentifier s.name = true) :
    Reads s.chars ⟨[], [s.global]⟩ := by
  obtain ⟨name, hname⟩ := exists_identifier h
  obtain ⟨align, halign⟩ : ∃ n : Numeral, n.digits = (decimal s.type.bytes).toList :=
    ⟨⟨(decimal s.type.bytes).toList, by cases s.type <;> decide, by cases s.type <;> decide⟩, rfl⟩
  let v : Variable := {
    visible := true
    space := .global
    align := some align
    kind := s.type.kind
    width := s.type.width
    name
    extents := []
    value := none
    fits := by cases s.type <;> decide }
  have front : Row v.front (".visible .global .align ".toList ++ (decimal s.type.bytes).toList ++
      ' ' :: (s.type.directive.toList ++ [' '])) := by
    have type : '.' :: s.type.kind.letter :: s.type.width.digits = s.type.directive.toList := by
      cases s.type <;> decide
    have words : v.front = [".visible".toList, ".global".toList, ".align".toList,
        (decimal s.type.bytes).toList, s.type.directive.toList] := by
      rw [← halign, ← type]
      rfl
    have row : Row v.front (".visible".toList ++ [' '] ++ (".global".toList ++ [' '] ++
        (".align".toList ++ [' '] ++ ((decimal s.type.bytes).toList ++ [' '] ++
          (s.type.directive.toList ++ [' '] ++ []))))) := by
      rw [words]
      repeat first | exact .nil | refine .cons (by decide) ?_
    simpa using row
  have gap : IsGap [] := by decide
  have reads := Variable.reads front gap
  have declarator : v.declarator = s.name.toList := by
    simpa [Variable.declarator, v] using hname
  have bytes : v.bytes = s.type.bytes := by
    change s.type.width.bytes * 1 = s.type.bytes
    cases s.type <;> rfl
  have defined : (Item.var v).symbols = ⟨[], [s.global]⟩ := by
    rw [Item.symbols, bytes, hname, String.ofList_toList]
    rfl
  rw [declarator, defined] at reads
  exact reads

/-! ### Kernels -/

/-- The definition of a kernel without the line feeds around it. -/
def definitionChars (name : String) : List Char :=
  ".visible .entry".toList ++ ' ' :: ((name.toList ++ "()".toList) ++
    '\n' :: "\x7b\n\tret;\n\x7d".toList)

theorem toList_kernelDefinition (name : String) :
    (kernelDefinition name).toList = '\n' :: (definitionChars name ++ ['\n']) := by
  have front : "\n.visible .entry ".toList = '\n' :: (".visible .entry".toList ++ [' ']) := rfl
  have back : "()\n\x7b\n\tret;\n\x7d\n".toList =
      "()".toList ++ '\n' :: ("\x7b\n\tret;\n\x7d".toList ++ ['\n']) := rfl
  unfold kernelDefinition definitionChars
  simp only [String.toList_append, front, back, List.append_assoc, List.cons_append,
    List.nil_append]

section Kernel

variable {name : String} (h : IsKernelName name)

include h

/-- The definition of a kernel up to the brace. -/
theorem plain_opening : PlainBut ['(', ')']
    (".visible .entry".toList ++ ' ' :: ((name.toList ++ "()".toList) ++ ['\n'])) := by
  have front : PlainBut ['(', ')'] ".visible .entry".toList := by decide
  have parens : PlainBut ['(', ')'] "()".toList := by decide
  have named : PlainBut ['(', ')'] name.toList := .of_isWord h.isWord
  exact front.append (.cons (by decide) ((named.append parens).append (by decide)))

theorem plain_definitionChars : PlainBut ['(', ')', ';', '\x7b', '\x7d'] (definitionChars name) := by
  have front : PlainBut ['(', ')', ';', '\x7b', '\x7d'] ".visible .entry".toList := by decide
  have parens : PlainBut ['(', ')', ';', '\x7b', '\x7d'] "()".toList := by decide
  have body : PlainBut ['(', ')', ';', '\x7b', '\x7d'] "\x7b\n\tret;\n\x7d".toList := by decide
  have named : PlainBut ['(', ')', ';', '\x7b', '\x7d'] name.toList := .of_isWord h.isWord
  exact front.append (.cons (by decide) ((named.append parens).append (.cons (by decide) body)))

theorem words_definitionChars : words (definitionChars name) =
    [".visible".toList, ".entry".toList, name.toList ++ "()".toList, "\x7b".toList, "ret;".toList,
      "\x7d".toList] := by
  have visible : ∀ c ∈ name.toList ++ "()".toList, isBlank c = false :=
    List.forall_mem_append.2 ⟨h.isWord.isBlank, by decide⟩
  have nonempty : name.toList ++ "()".toList ≠ [] :=
    List.append_ne_nil_of_left_ne_nil h.ne_nil _
  have front : words ".visible .entry".toList = [".visible".toList, ".entry".toList] := by decide
  have back : words "\x7b\n\tret;\n\x7d".toList = ["\x7b".toList, "ret;".toList, "\x7d".toList] := by
    decide
  have behind : words ((name.toList ++ "()".toList) ++ '\n' :: "\x7b\n\tret;\n\x7d".toList) =
      [name.toList ++ "()".toList, "\x7b".toList, "ret;".toList, "\x7d".toList] := by
    rw [words_append_newline (_ ++ _) _, words_eq_singleton nonempty visible, back]
    rfl
  unfold definitionChars
  rw [words_append_cons (by decide) _ (_ ++ _ :: _), front, behind]
  rfl

theorem entriesOf_definitionChars : entriesOf false (words (definitionChars name)) = [name] := by
  have hname : entryName? (name.toList ++ "()".toList) = some name := by
    have cut : firstPiece (· == '(') (name.toList ++ "()".toList) = name.toList := by
      rw [firstPiece_append_of_forall (forall_beq_eq_false (h.not_mem (by decide)))]
      exact List.append_nil _
    rw [entryName?, cut, String.ofList_toList]
    simpa using h.ne_nil
  have none : ".entry".toList ∉ [name.toList ++ "()".toList, "\x7b".toList, "ret;".toList,
      "\x7d".toList] := by
    have closing : (name.toList ++ "()".toList).getLast? = some ')' := by simp
    have literal : ".entry".toList ∉ ["\x7b".toList, "ret;".toList, "\x7d".toList] := by decide
    refine List.not_mem_cons_of_ne_of_not_mem (fun heq => ?_) literal
    rw [← heq] at closing
    exact absurd closing (by decide)
  have split : words (definitionChars name) = [".visible".toList, ".entry".toList] ++
      [name.toList ++ "()".toList, "\x7b".toList, "ret;".toList, "\x7d".toList] :=
    words_definitionChars h
  have awaits : entriesOf false [".visible".toList, ".entry".toList] = [] ∧
      awaitsName false [".visible".toList, ".entry".toList] = true := by decide
  rw [split, entriesOf_append, awaits.1, awaits.2, if_pos rfl, entriesOf_eq_nil none, List.head?_cons,
    Option.bind_some, hname]
  rfl

/-- **The definition of a kernel** defines the kernel. -/
theorem reads_definition : Reads (definitionChars name) ⟨[name], []⟩ := by
  -- what precedes the brace, of words and parentheses, is taken as a whole
  obtain ⟨opening, hopening⟩ : ∃ cs, cs =
      ".visible .entry".toList ++ ' ' :: ((name.toList ++ "()".toList) ++ ['\n']) := ⟨_, rfl⟩
  have plain : PlainBut ['(', ')'] opening := hopening ▸ plain_opening h
  have split : definitionChars name = opening ++ "\x7b\n\tret;\n\x7d".toList := by
    rw [hopening]
    unfold definitionChars
    simp only [List.append_assoc, List.cons_append, List.nil_append]
  have body : definitionChars name = (opening ++ ['\x7b']) ++
      ["\n\tret".toList].flatMap (fun cs => cs ++ [';']) ++ ['\n'] ++ ['\x7d'] := by
    have literal : "\x7b\n\tret;\n\x7d".toList =
        '\x7b' :: ("\n\tret".toList ++ [';', '\n', '\x7d']) := rfl
    rw [split, literal]
    simp only [List.flatMap_cons, List.flatMap_nil, List.append_assoc, List.cons_append,
      List.nil_append]
  have gap : IsGap ['\n'] := by decide
  have value : '=' ∉ opening ++ ['\x7b'] := List.not_mem_append (plain.not_mem (by decide)) (by decide)
  have semi : ';' ∉ opening ++ ['\x7b'] := List.not_mem_append (plain.not_mem (by decide)) (by decide)
  have opened : lastPiece isBrace (opening ++ ['\x7b']) = [] := lastPiece_append_cons (by rfl) _ []
  obtain ⟨globals, hvalue, hdeclaration⟩ :=
    globalsOf_statements gap (by decide) (by decide) value semi opened body
  obtain ⟨external, named⟩ := closed_words (Or.inr rfl) ((opening ++ ['\x7b']) ++
    ["\n\tret".toList].flatMap (fun cs => cs ++ [';']) ++ ['\n'])
  rw [← body] at external named
  refine ⟨⟨external, named, hvalue, ?_⟩, ?_, ?_⟩
  · rw [hdeclaration]
    exact fun _ hw => absurd hw List.not_mem_nil
  · rw [symbolsIn, entriesOf_definitionChars h, globals]
  · rw [split, balanced_append (balanced_of_no_brace (plain.isBrace (by decide)))]
    decide

end Kernel

/-! ### The whole -/

/-- Parts with a line feed behind each define what each of them does. -/
theorem reads_parts {α : Type} {text : α → List Char} {defined : α → Symbols} {as : List α}
    (parts : ∀ a ∈ as, Reads (text a) (defined a)) {rest : List Char} {S : Symbols}
    (hrest : Reads rest S) :
    Reads (as.flatMap (fun a => text a ++ ['\n']) ++ rest)
      (⟨as.flatMap fun a => (defined a).entries, as.flatMap fun a => (defined a).globals⟩ ++ S) := by
  induction as with
  | nil => exact hrest
  | cons a as ih =>
    obtain ⟨ha, has⟩ := List.forall_mem_cons.1 parts
    have joined := ha.append (b := '\n') (by decide) (ih has)
    simpa only [List.flatMap_cons, List.append_assoc, List.cons_append, List.nil_append,
      Symbols.append_def] using joined

section Assembly

variable {arch : Int} {scalars : List DeviceScalar} {kernels : List String}

/-- What is printed for variables and kernels behind the comments. -/
def assemblyChars (arch : Int) (scalars : List DeviceScalar) (kernels : List String) : List Char :=
  headChars arch ++ '\n' :: ('\n' :: (scalars.flatMap (fun s => s.chars ++ ['\n']) ++
    (kernels.flatMap (fun k => ('\n' :: definitionChars k) ++ ['\n']) ++ [])))

theorem toList_joined (texts : List String) :
    (joined "" texts).toList = texts.flatMap String.toList := by
  induction texts with
  | nil => rfl
  | cons text rest ih =>
    cases rest with
    | nil => simp [joined]
    | cons next rest =>
      have cut : joined "" (text :: next :: rest) = text ++ "" ++ joined "" (next :: rest) :=
        String.intercalate_cons_cons
      rw [cut, List.flatMap_cons, ← ih]
      simp

theorem toList_assembly (arch : Int) (scalars : List DeviceScalar) (kernels : List String) :
    (assembly arch scalars kernels).toList =
      "//\n// Generated by mock NVRTC\n//\n\n".toList ++ assemblyChars arch scalars kernels := by
  have head : (header arch).toList =
      "//\n// Generated by mock NVRTC\n//\n\n".toList ++ (headChars arch ++ ['\n', '\n']) := by
    have front : "//\n// Generated by mock NVRTC\n//\n\n.version 7.0\n.target sm_".toList =
        "//\n// Generated by mock NVRTC\n//\n\n".toList ++
          (".version 7.0\n.target".toList ++ ' ' :: "sm_".toList) := rfl
    have back : "\n.address_size 64\n\n".toList =
        '\n' :: (".address_size 64".toList ++ ['\n', '\n']) := rfl
    unfold header headChars
    simp only [String.toList_append, front, back, List.append_assoc, List.cons_append]
  unfold assembly assemblyChars
  simp only [String.toList_append, toList_joined, head, List.flatMap_map,
    DeviceScalar.toList_declaration, toList_kernelDefinition, List.append_assoc, List.cons_append,
    List.nil_append, List.append_nil]

variable (arch) (hs : ∀ s ∈ scalars, isIdentifier s.name = true)
  (hk : ∀ k ∈ kernels, IsKernelName k)

include hs hk

theorem plain_assemblyChars :
    PlainBut ['-', '(', ')', ';', '\x7b', '\x7d'] (assemblyChars arch scalars kernels) := by
  have head : PlainBut ['-', '(', ')', ';', '\x7b', '\x7d'] (headChars arch) :=
    (plain_headChars arch).mono (by decide)
  refine head.append (.cons (by decide) (.cons (by decide) (.append ?_ (.append ?_ (by decide)))))
  · intro c hc
    obtain ⟨s, hs', hc⟩ := List.mem_flatMap.1 hc
    have declaration : PlainBut [';'] (s.chars ++ ['\n']) := (s.plain (hs s hs')).append (by decide)
    exact declaration.mono (by decide) c hc
  · intro c hc
    obtain ⟨k, hk', hc⟩ := List.mem_flatMap.1 hc
    have definition : PlainBut ['(', ')', ';', '\x7b', '\x7d'] (('\n' :: definitionChars k) ++ ['\n']) :=
      (PlainBut.cons (by decide) (plain_definitionChars (hk k hk'))).append (by decide)
    exact definition.mono (by decide) c hc

theorem reads_assemblyChars :
    Reads (assemblyChars arch scalars kernels) ⟨kernels, scalars.map DeviceScalar.global⟩ := by
  have declarations : ∀ s ∈ scalars, Reads s.chars ⟨[], [s.global]⟩ := fun s h => s.reads (hs s h)
  have definitions : ∀ k ∈ kernels, Reads ('\n' :: definitionChars k) ⟨[k], []⟩ := fun k h =>
    reads_nil.append (by decide) (reads_definition (hk k h))
  have behind := reads_parts declarations (reads_parts definitions reads_nil)
  have whole := (reads_head arch).append (b := '\n') (by decide)
    (reads_nil.append (b := '\n') (by decide) behind)
  have entries : scalars.flatMap (fun _ => ([] : List String)) = [] := by simp
  have globals : kernels.flatMap (fun _ => ([] : List Global)) = [] := by simp
  simp only [Symbols.append_def, entries, globals, ← List.map_eq_flatMap, List.map_id',
    List.nil_append, List.append_nil] at whole
  unfold assemblyChars
  simpa only [List.append_nil] using whole

/-- **What is printed for variables and kernels** is read as these: it is a module that defines them, and
it holds no NUL. -/
theorem read_assembly : isModule (assembly arch scalars kernels) = true ∧
    symbols (assembly arch scalars kernels) = ⟨kernels, scalars.map DeviceScalar.global⟩ ∧
      '\x00' ∉ (assembly arch scalars kernels).toList := by
  have plain := plain_assemblyChars arch hs hk
  have reads := reads_assemblyChars arch hs hk
  have commented : Commented (assembly arch scalars kernels).toList
      ("\n\n\n\n".toList ++ assemblyChars arch scalars kernels) := by
    have uncommented : '/' ∉ '\n' :: assemblyChars arch scalars kernels :=
      List.not_mem_cons_of_ne_of_not_mem (by decide) (plain.not_mem (by decide))
    rw [toList_assembly]
    exact .line (by decide : '\n' ∉ [])
      (.line (by decide : '\n' ∉ " Generated by mock NVRTC".toList)
        (.line (by decide : '\n' ∉ []) (commented_self uncommented)))
  have body : bodyOf (assembly arch scalars kernels) =
      "\n\n\n\n".toList ++ assemblyChars arch scalars kernels :=
    (bodyOf_eq _).trans commented.codeOf_eq.1
  have gap : IsGap "\n\n\n\n".toList := by decide
  have reads := reads.gap_append gap
  refine ⟨?_, ?_, ?_⟩
  · have found : ∀ word ∈ [".version".toList, ".target".toList],
        word ∈ words (assemblyChars arch scalars kernels) := by
      intro word hw
      unfold assemblyChars
      rw [words_append_newline (headChars arch) (_ :: _), words_headChars]
      simp only [List.mem_cons, List.not_mem_nil, or_false] at hw
      obtain rfl | rfl := hw <;> simp
    rw [isModule_eq, body, reads.balanced, words_gap_append gap]
    simpa using found
  · rw [symbols_eq, body, reads.symbols]
  · rw [toList_assembly]
    exact List.not_mem_append (by decide) (plain.not_mem (by decide))

end Assembly

theorem translate_eq_ok_iff {source : String} {arch : Int} {text : String} :
    translate source arch = .ok text ↔ flaw? source = none ∧ ∃ kernels,
      kernelNames source = .ok kernels ∧ assembly arch (deviceScalars source) kernels = text := by
  unfold translate
  cases flaw? source with
  | some flaw => simp
  | none =>
    rcases kernelNames source with (_ | _) | kernels
    · simp
    · simp

/-- **A translation** is a module that defines what the source says: the kernels in order, and the
variables in order with the sizes of their types. -/
theorem read_translation {source : String} {arch : Int} {text : String}
    (translated : translate source arch = .ok text)
    (identifiers : ∀ s ∈ deviceScalars source, isIdentifier s.name = true) :
    ∃ kernels, kernelNames source = .ok kernels ∧ (∀ k ∈ kernels, IsKernelName k) ∧
      isModule text = true ∧
        symbols text = ⟨kernels, (deviceScalars source).map DeviceScalar.global⟩ ∧
          '\x00' ∉ text.toList := by
  obtain ⟨-, kernels, hkernels, rfl⟩ := translate_eq_ok_iff.1 translated
  have names : ∀ k ∈ kernels, IsKernelName k := fun k => isKernelName_of_mem hkernels
  exact ⟨kernels, hkernels, names, read_assembly arch identifiers names⟩

end GpuDriver.Source
