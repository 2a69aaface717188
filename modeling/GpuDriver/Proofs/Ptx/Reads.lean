import GpuDriver.Proofs.Ptx.Loss
import GpuDriver.Proofs.Ptx.Rows

/-!
# Texts that are read as they should be

`Reads body defined` says that a text without comments defines just this, leaves nothing open and has
balanced braces. A blank keeps two such texts apart (`Reads.append`), so that a module can be read part by
part. Here are the parts that define nothing: the header (`Header.reads`) and what is defined elsewhere
(`External.reads`).
-/

namespace GpuDriver.Ptx

open Text

/-! ### Parts of a text -/

/-- The text without comments defines this, leaves nothing open, and its braces are balanced. -/
structure Reads (body : List Char) (defined : Symbols) : Prop where
  /-- Nothing is open at its end. -/
  settled : Settled body
  /-- It defines this. -/
  symbols : symbolsIn body = defined
  /-- Its braces are balanced. -/
  balanced : balanced body = true

section Append

variable {cs ds : List Char} {b : Char} {S S' : Symbols}

/-- **A blank keeps two texts apart.** -/
theorem Reads.append (hcs : Reads cs S) (hb : isBlank b = true) (hds : Reads ds S') :
    Reads (cs ++ b :: ds) (S ++ S') where
  settled := hcs.settled.append hb hds.settled
  symbols := by rw [hcs.settled.symbolsIn_append hb, hcs.symbols, hds.symbols]
  balanced := by
    have opening : b ≠ '\x7b' := ne_of_isBlank hb (by decide)
    have closing : b ≠ '\x7d' := ne_of_isBlank hb (by decide)
    rw [balanced_append hcs.balanced, ← hds.balanced]
    simp [Text.balanced, braceDepth, opening, closing]

theorem reads_nil : Reads [] ⟨[], []⟩ where
  settled := ⟨rfl, rfl, List.not_mem_nil, fun _ hw => absurd hw List.not_mem_nil⟩
  symbols := rfl
  balanced := rfl

theorem Reads.gap_append {gap : List Char} (hg : IsGap gap) (h : Reads ds S) :
    Reads (gap ++ ds) S := by
  induction gap with
  | nil => exact h
  | cons b gap ih =>
    obtain ⟨hb, hgap⟩ := List.forall_mem_cons.1 hg
    exact reads_nil.append hb (ih hgap)

theorem Reads.space_append {space : List Char} (hcs : Reads cs S) (hs : IsSpace space)
    (hds : Reads ds S') : Reads (cs ++ space ++ ds) (S ++ S') := by
  obtain ⟨hne, hgap⟩ := hs
  obtain ⟨b, gap, rfl⟩ := List.exists_cons_of_ne_nil hne
  obtain ⟨hb, hgap⟩ := List.forall_mem_cons.1 hgap
  rw [List.append_assoc, List.cons_append]
  exact hcs.append hb (hds.gap_append hgap)

end Append

/-! ### Words that define nothing -/

theorem entriesOf_eq_nil {ws : List (List Char)} (h : ".entry".toList ∉ ws) (external : Bool) :
    entriesOf external ws = [] := by
  induction ws generalizing external with
  | nil => rfl
  | cons word rest ih =>
    obtain ⟨hword, hrest⟩ := List.ne_and_not_mem_of_not_mem_cons h
    have hname : awaitsName external [word] = false := by
      rw [awaitsName_singleton, decide_eq_false hword.symm, Bool.false_and]
    rw [entriesOf_cons, hname, ih hrest]
    rfl

theorem externalAfter_eq_false {ws : List (List Char)} (h : ".extern".toList ∉ ws) :
    externalAfter false ws = false := by
  induction ws with
  | nil => rfl
  | cons word rest ih =>
    obtain ⟨hword, hrest⟩ := List.ne_and_not_mem_of_not_mem_cons h
    have hnext : externalNext false word = false := by
      rw [externalNext, if_neg hword.symm]
      split <;> rfl
    exact (congrArg (fun x => rest.foldl externalNext x) hnext).trans (ih hrest)

/-! ### The header -/

/-- A word that does not begin with a dot. -/
theorem inert_of_head? {word : List Char} (h : word.head? ≠ some '.') : Inert word := by
  constructor
  · intro hm
    have dotted : ∀ w ∈ [".global".toList, ".const".toList, ".extern".toList], w.head? = some '.' := by
      decide
    exact h (dotted word hm)
  · unfold typeSize?
    split
    · exact absurd rfl h
    · rfl

theorem ne_entry_of_head? {word : List Char} (h : word.head? ≠ some '.') : word ≠ ".entry".toList := by
  rintro rfl
  exact h rfl

theorem head?_ne_of_not_mem {word : List Char} (h : '.' ∉ word) : word.head? ≠ some '.' :=
  fun hhead => h (List.mem_of_head? hhead)

theorem Header.inert_words (h : Header) :
    ∀ word ∈ h.front ++ [h.last], Inert word ∧ word ≠ ".entry".toList := by
  have plain : ∀ word : List Char, word.head? ≠ some '.' → Inert word ∧ word ≠ ".entry".toList :=
    fun _ hw => ⟨inert_of_head? hw, ne_entry_of_head? hw⟩
  have version : (h.major.digits ++ '.' :: h.minor.digits).head? ≠ some '.' := by
    obtain ⟨c, cs, hcs⟩ := List.exists_cons_of_ne_nil h.major.ne_nil
    have hdot : '.' ∉ h.major.digits := h.major.not_mem (by decide)
    rw [hcs] at hdot ⊢
    exact fun heq => hdot (Option.some.inj heq ▸ List.mem_cons_self)
  have target : h.target.head? ≠ some '.' := head?_ne_of_not_mem fun hm =>
    absurd (h.target_valid _ hm) (by decide)
  have digits : ∀ n : Numeral, n.digits.head? ≠ some '.' := fun n =>
    head?_ne_of_not_mem (n.not_mem (by decide))
  have keyword : ∀ word ∈ [".version".toList, ".target".toList, ".address_size".toList],
      Inert word ∧ word ≠ ".entry".toList := by decide
  have front : ∀ word ∈ [".version".toList, h.major.digits ++ '.' :: h.minor.digits,
      ".target".toList], Inert word ∧ word ≠ ".entry".toList :=
    List.forall_mem_cons.2 ⟨keyword _ (by decide), List.forall_mem_cons.2
      ⟨plain _ version, List.forall_mem_singleton.2 (keyword _ (by decide))⟩⟩
  unfold Header.front Header.last
  cases h.addressSize with
  | none =>
    exact List.forall_mem_append.2 ⟨List.forall_mem_append.2
      ⟨front, fun _ hw => absurd hw List.not_mem_nil⟩, List.forall_mem_singleton.2 (plain _ target)⟩
  | some n =>
    have more : ∀ word ∈ [h.target, ".address_size".toList], Inert word ∧ word ≠ ".entry".toList :=
      List.forall_mem_cons.2 ⟨plain _ target, List.forall_mem_singleton.2 (keyword _ (by decide))⟩
    exact List.forall_mem_append.2 ⟨List.forall_mem_append.2 ⟨front, more⟩,
      List.forall_mem_singleton.2 (plain _ (digits n))⟩

/-- **A text of words that begin nothing** and without a sign that ends or opens anything defines nothing
and leaves nothing open. -/
theorem reads_inert {cs : List Char} (hsemi : ';' ∉ cs) (hvalue : '=' ∉ cs)
    (hbrace : ∀ c ∈ cs, isBrace c = false)
    (inert : ∀ word ∈ words cs, Inert word ∧ word ≠ ".entry".toList) : Reads cs ⟨[], []⟩ := by
  have hentry : ".entry".toList ∉ words cs := fun hw => (inert _ hw).2 rfl
  have hextern : ".extern".toList ∉ words cs := fun hw => (inert _ hw).1.1 (by decide)
  have hsemi : ∀ c ∈ cs, (c == ';') = false := forall_beq_eq_false hsemi
  have htail : tailOf cs = cs := lastPiece_eq_self hsemi
  have hdeclaration : declarationIn cs = cs := by
    rw [declarationIn_of_no_value hvalue, lastPiece_eq_self hbrace]
  refine ⟨⟨externalAfter_eq_false hextern, ?_, ?_, ?_⟩, ?_, balanced_of_no_brace hbrace⟩
  · rw [awaitsName, decide_eq_false fun heq => hentry (List.mem_of_getLast? heq), Bool.false_and]
  · rw [htail]
    exact hvalue
  · rw [htail, hdeclaration]
    exact fun word hw => (inert word hw).1
  · rw [symbolsIn, entriesOf_eq_nil hentry, globalsOf_of_forall hsemi, globalsIn, hdeclaration,
      globalOf?_eq_none fun word hw => (inert word hw).1]
    rfl

/-- **A header** defines nothing and leaves nothing open. -/
theorem Header.reads (h : Header) {front : List Char} (hf : Row h.front front) :
    Reads (front ++ h.last) ⟨[], []⟩ := by
  have plain : Plain (front ++ h.last) := (hf.plain h.isWord_front).append h.isWord_last.plain
  have hwords : words (front ++ h.last) = h.front ++ [h.last] := by
    rw [hf.words_append h.isWord_front, words_eq_singleton h.isWord_last.ne_nil h.isWord_last.isBlank]
  exact reads_inert (plain.not_mem (by decide)) (plain.not_mem (by decide)) plain.isBrace
    (hwords ▸ h.inert_words)

/-! ### Declarations -/

/-- A semicolon or a brace at the end of a text ends whatever its words began. -/
theorem closed_words {x : Char} (hx : x = ';' ∨ x = '\x7d') (cs : List Char) :
    externalAfter false (words (cs ++ [x])) = false ∧
      awaitsName false (words (cs ++ [x])) = false := by
  have hblank : isBlank x = false := by obtain rfl | rfl := hx <;> decide
  obtain ⟨ws, word, hwords⟩ := exists_words_concat hblank cs
  have hlast : ∀ w : List Char, w.getLast? ≠ some x → word ++ [x] ≠ w := by
    rintro w hw rfl
    exact hw List.getLast?_concat
  have hextern : word ++ [x] ≠ ".extern".toList := hlast _ (by obtain rfl | rfl := hx <;> decide)
  have hentry : word ++ [x] ≠ ".entry".toList := hlast _ (by obtain rfl | rfl := hx <;> decide)
  have hends : endsDeclaration (word ++ [x]) = true := by
    obtain rfl | rfl := hx <;> simp [endsDeclaration]
  rw [hwords]
  constructor
  · rw [externalAfter, List.foldl_append, List.foldl_cons, List.foldl_nil, externalNext,
      if_neg hextern, hends, Bool.or_true]
    rfl
  · rw [awaitsName, List.getLast?_concat, decide_eq_false fun heq => hentry (Option.some.inj heq),
      Bool.false_and]

/-- What a declaration that ends with a semicolon defines. -/
theorem reads_declaration {cs : List Char} (hsemi : ';' ∉ cs) (hentry : ".entry".toList ∉ words cs)
    (balanced : Text.balanced cs = true) : Reads (cs ++ [';']) ⟨[], globalsIn cs⟩ := by
  obtain ⟨external, name⟩ := closed_words (Or.inl rfl) cs
  have hentry : ".entry".toList ∉ words (cs ++ [';']) := by
    intro hm
    obtain ⟨hm, -⟩ | hm := mem_words_append_cons (by decide) (by decide) hm
    · exact hentry hm
    · exact absurd hm (by decide)
  have htail : tailOf (cs ++ [';']) = [] := lastPiece_append_cons (by rfl) cs []
  refine ⟨⟨external, name, ?_, ?_⟩, ?_, ?_⟩
  · rw [htail]
    exact List.not_mem_nil
  · rw [htail]
    exact fun _ hw => absurd hw List.not_mem_nil
  · have hglobals : globalsOf (cs ++ [';']) = globalsOf cs ++ globalsOf [] := globalsOf_append_cons cs []
    rw [symbolsIn, entriesOf_eq_nil hentry, hglobals, globalsOf_of_forall (forall_beq_eq_false hsemi)]
    exact congrArg (Symbols.mk []) (List.append_nil _)
  · rw [balanced_append balanced]
    decide

/-! ### What is defined elsewhere -/

section External

variable {e : External} {front : List Char} (hf : Row e.front front)

include hf

/-- Nothing is declared here. -/
theorem External.globalsIn_eq : globalsIn (front ++ e.chars) = [] := by
  have plain : Plain front := hf.plain e.isWord_front
  have hbrace : ∀ c ∈ front ++ firstPiece (· == '=') e.chars, isBrace c = false :=
    List.forall_mem_append.2 ⟨plain.isBrace, fun c hc =>
      (e.valid c ((List.takeWhile_sublist _).mem hc)).2⟩
  have hdeclaration : declarationIn (front ++ e.chars) = front ++ firstPiece (· == '=') e.chars := by
    rw [declarationIn_eq, firstPiece_append_of_forall (forall_beq_eq_false (plain.not_mem (by decide))),
      lastPiece_eq_self hbrace]
  have hextern : ".extern".toList ∈ words (declarationIn (front ++ e.chars)) := by
    rw [hdeclaration, hf.words_append e.isWord_front]
    exact List.mem_append_left _ List.mem_cons_self
  rw [globalsIn, globalOf?_eq, globalOfWords?_eq_none hextern]
  rfl

/-- **Something external** defines nothing. -/
theorem External.reads : Reads (front ++ e.chars ++ [';']) (Item.declared e).symbols := by
  have plain : Plain front := hf.plain e.isWord_front
  have hsemi : ';' ∉ front ++ e.chars :=
    List.not_mem_append (plain.not_mem (by decide)) fun hm => (e.valid _ hm).1 rfl
  have hentry : ".entry".toList ∉ words (front ++ e.chars) := by
    rw [hf.words_append e.isWord_front]
    refine List.not_mem_append ?_ e.no_entry
    unfold External.front
    cases e.isFunction <;> decide
  have hbrace : ∀ c ∈ front ++ e.chars, isBrace c = false :=
    List.forall_mem_append.2 ⟨plain.isBrace, fun c hc => (e.valid c hc).2⟩
  have h := reads_declaration hsemi hentry (balanced_of_no_brace hbrace)
  rw [External.globalsIn_eq hf] at h
  exact h

end External

end GpuDriver.Ptx
