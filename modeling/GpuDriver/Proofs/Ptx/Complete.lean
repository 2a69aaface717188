import GpuDriver.Proofs.Ptx.Seam

/-!
# Texts that end where something ends

A text is complete (`Complete`) if nothing that it begins is open at its end: no block comment, no
declaration of something external, no kernel without its name, no initial value, and no declaration of
which a word has been said that counts. After a complete text another one means what it means by itself:
the two define together what they define apart (`Complete.symbols_append`). A line feed at the end never
counts (`symbols_newline`).
-/

namespace GpuDriver.Ptx

open Text

/-- The symbols of one text and then of another. -/
instance : Append Symbols where
  append a b := { entries := a.entries ++ b.entries, globals := a.globals ++ b.globals }

theorem Symbols.append_def (a b : Symbols) :
    a ++ b = { entries := a.entries ++ b.entries, globals := a.globals ++ b.globals } := rfl

/-! ### Words that do not count -/

/-- The variable that a row of words declares, if it declares one here. -/
def globalOfWords? (ws : List (List Char)) : Option Global :=
  if (ws.contains ".global".toList || ws.contains ".const".toList) &&
      !ws.contains ".extern".toList then
    match ws.getLast? with
    | some declarator =>
      if declarator.head? = some '.' then none
      else some {
        name := String.ofList (firstPiece (· == '[') declarator)
        bytes := cappedProduct ((ws.findSome? typeSize?).getD 1) (elementCount declarator) }
    | none => none
  else none

theorem globalOf?_eq (declaration : List Char) :
    globalOf? declaration = globalOfWords? (words declaration) := rfl

/-- A word that makes no difference to a declaration that goes on after it: it names neither a state
space nor a linkage nor a type with a size. -/
def Inert (word : List Char) : Prop :=
  word ∉ [".global".toList, ".const".toList, ".extern".toList] ∧ typeSize? word = none

instance : DecidablePred Inert := fun _ => inferInstanceAs (Decidable (_ ∧ _))

theorem globalOfWords?_append {ws : List (List Char)} (h : ∀ word ∈ ws, Inert word)
    (vs : List (List Char)) : globalOfWords? (ws ++ vs) = globalOfWords? vs := by
  have hword : ∀ word ∈ [".global".toList, ".const".toList, ".extern".toList],
      ws.contains word = false := by
    intro word hword
    rw [← Bool.not_eq_true, List.contains_iff_mem]
    exact fun hmem => (h word hmem).1 hword
  have hsize : ws.findSome? typeSize? = none :=
    List.findSome?_eq_none_iff.2 fun word hmem => (h word hmem).2
  have hcontains : ∀ word ∈ [".global".toList, ".const".toList, ".extern".toList],
      (ws ++ vs).contains word = vs.contains word := by
    intro word hmem
    rw [List.contains_append, hword word hmem, Bool.false_or]
  simp only [globalOfWords?, hcontains _ (by simp : ".global".toList ∈ _),
    hcontains _ (by simp : ".const".toList ∈ _), hcontains _ (by simp : ".extern".toList ∈ _),
    List.findSome?_append, hsize, Option.none_or]
  cases vs with
  | nil => rfl
  | cons v vs =>
    rw [List.getLast?_append, List.getLast?_eq_some_getLast (List.cons_ne_nil v vs), Option.some_or]

theorem globalOf?_append {d : List Char} (h : ∀ word ∈ words d, Inert word) {b : Char}
    (hb : isBlank b = true) (e : List Char) : globalOf? (d ++ b :: e) = globalOf? e := by
  rw [globalOf?_eq, words_append_cons hb, globalOfWords?_append h, ← globalOf?_eq]

theorem globalOf?_eq_none {d : List Char} (h : ∀ word ∈ words d, Inert word) :
    globalOf? d = none := by
  rw [globalOf?_eq, ← List.append_nil (words d), globalOfWords?_append h]
  rfl

/-! ### The declaration across a seam -/

/-- A brace. -/
def isBrace (c : Char) : Bool := c == '\x7b' || c == '\x7d'

theorem declarationIn_eq (chunk : List Char) :
    declarationIn chunk = lastPiece isBrace (firstPiece (· == '=') chunk) := rfl

/-- Within an initial value nothing more is read. -/
theorem declarationIn_append_of_value {tail : List Char} (h : '=' ∈ tail) (ds : List Char) :
    declarationIn (tail ++ ds) = declarationIn tail := by
  rw [declarationIn_eq, firstPiece_append_of_exists ⟨'=', h, rfl⟩, ← declarationIn_eq]

section NoValue

variable {tail head : List Char} {b : Char} (h : '=' ∉ tail) (hb : isBlank b = true)

include h

theorem declarationIn_of_no_value : declarationIn tail = lastPiece isBrace tail := by
  have htail : firstPiece (· == '=') tail = tail :=
    firstPiece_eq_self fun c hc => beq_eq_false_iff_ne.2 fun hc' => h (hc' ▸ hc)
  rw [declarationIn_eq, htail]

include hb

theorem firstPiece_append_blank :
    firstPiece (· == '=') (tail ++ b :: head) = tail ++ b :: firstPiece (· == '=') head := by
  have hline : ∀ c ∈ tail ++ [b], (c == '=') = false := by
    intro c hc
    simp only [List.mem_append, List.mem_singleton] at hc
    rw [beq_eq_false_iff_ne]
    rintro rfl
    exact hc.elim h fun hc => ne_of_isBlank hb (by decide) hc.symm
  simpa using firstPiece_append_of_forall hline head

/-- A brace ends the declaration that was begun before it. -/
theorem declarationIn_append_of_brace (brace : (firstPiece (· == '=') head).any isBrace = true) :
    declarationIn (tail ++ b :: head) = declarationIn head := by
  rw [declarationIn_eq, firstPiece_append_blank h hb, ← List.singleton_append,
    ← List.append_assoc, lastPiece_append_of_exists (List.any_eq_true.1 brace), ← declarationIn_eq]

/-- Without a brace the declaration goes on. -/
theorem declarationIn_append_of_no_brace
    (brace : (firstPiece (· == '=') head).any isBrace = false) :
    declarationIn (tail ++ b :: head) = declarationIn tail ++ b :: declarationIn head := by
  have none : ∀ c ∈ firstPiece (· == '=') head, isBrace c = false := by simpa using brace
  have blank : isBrace b = false := by
    have opening : b ≠ '\x7b' := ne_of_isBlank hb (by decide)
    have closing : b ≠ '\x7d' := ne_of_isBlank hb (by decide)
    simp [isBrace, opening, closing]
  have hline : ∀ c ∈ b :: firstPiece (· == '=') head, isBrace c = false :=
    List.forall_mem_cons.2 ⟨blank, none⟩
  have hhead : declarationIn head = firstPiece (· == '=') head := lastPiece_eq_self none
  rw [declarationIn_eq, firstPiece_append_blank h hb, lastPiece_append_of_forall hline,
    ← declarationIn_of_no_value h, hhead]

end NoValue

/-! ### Texts in which nothing is open -/

/-- Nothing that a text without comments begins is open at its end. -/
structure Settled (body : List Char) : Prop where
  /-- No declaration of something external is open. -/
  external : externalAfter false (words body) = false
  /-- No kernel awaits its name. -/
  name : awaitsName false (words body) = false
  /-- No initial value is open. -/
  value : '=' ∉ tailOf body
  /-- Of the declaration that is open no word counts. -/
  inert : ∀ word ∈ words (declarationIn (tailOf body)), Inert word

/-- **After a text in which nothing is open** and a blank, another one defines what it defines by
itself. -/
theorem Settled.symbolsIn_append {cs : List Char} (hcs : Settled cs) {b : Char}
    (hb : isBlank b = true) (ds : List Char) :
    symbolsIn (cs ++ b :: ds) = symbolsIn cs ++ symbolsIn ds := by
  have hentries := entriesOf_append false (words cs) (words ds)
  rw [hcs.name, hcs.external] at hentries
  have hglobals : globalsIn (tailOf cs ++ b :: headOf ds) =
      globalsIn (tailOf cs) ++ globalsIn (headOf ds) := by
    rw [globalsIn, globalsIn, globalOf?_eq_none hcs.inert, Option.toList_none, List.nil_append,
      globalsIn]
    cases brace : (firstPiece (· == '=') (headOf ds)).any isBrace with
    | true => rw [declarationIn_append_of_brace hcs.value hb brace]
    | false =>
      rw [declarationIn_append_of_no_brace hcs.value hb brace, globalOf?_append hcs.inert hb]
  simp only [symbolsIn, words_append_cons hb, hentries, (globalsOf_append_iff hb _ _).2 hglobals]
  rfl

section Append

variable {cs ds : List Char} {b : Char}

theorem awaitsName_append {ws vs : List (List Char)} (hws : externalAfter false ws = false)
    (hname : awaitsName false ws = false) (hvs : awaitsName false vs = false) :
    awaitsName false (ws ++ vs) = false := by
  by_cases hnil : vs = []
  · rw [hnil, List.append_nil, hname]
  · have hlast : (ws ++ vs).getLast? = vs.getLast? := by
      rw [List.getLast?_append, List.getLast?_eq_some_getLast hnil, Option.some_or]
    have hexternal : externalAfter false (ws ++ vs.dropLast) = externalAfter false vs.dropLast := by
      rw [externalAfter, List.foldl_append]
      exact congrArg (fun x => vs.dropLast.foldl externalNext x) hws
    rw [awaitsName, List.dropLast_append_of_ne_nil hnil, hlast, hexternal]
    exact hvs

/-- **Nothing is open** after two texts with a blank between them if nothing is after either. -/
theorem Settled.append (hcs : Settled cs) (hb : isBlank b = true) (hds : Settled ds) :
    Settled (cs ++ b :: ds) := by
  have htail : tailOf (cs ++ b :: ds) = tailOf ds ∨
      (tailOf ds = ds ∧ tailOf (cs ++ b :: ds) = tailOf cs ++ b :: ds) := by
    have hsemi : (b == ';') = false := beq_eq_false_iff_ne.2 (ne_of_isBlank hb (by decide))
    by_cases hend : ';' ∈ ds
    · rw [tailOf, ← List.singleton_append, ← List.append_assoc,
        lastPiece_append_of_exists ⟨';', hend, rfl⟩]
      exact Or.inl rfl
    · have hend : ∀ d ∈ ds, (d == ';') = false := fun d hd =>
        beq_eq_false_iff_ne.2 fun heq => hend (heq ▸ hd)
      have hboth : ∀ d ∈ b :: ds, (d == ';') = false := List.forall_mem_cons.2 ⟨hsemi, hend⟩
      exact Or.inr ⟨lastPiece_eq_self hend, lastPiece_append_of_forall hboth cs⟩
  obtain ⟨hvalue, hinert⟩ : '=' ∉ tailOf (cs ++ b :: ds) ∧
      ∀ word ∈ words (declarationIn (tailOf (cs ++ b :: ds))), Inert word := by
    obtain htail | ⟨hds', htail⟩ := htail
    · rw [htail]
      exact ⟨hds.value, hds.inert⟩
    have hvalue : '=' ∉ ds := hds' ▸ hds.value
    have hinert := hds' ▸ hds.inert
    have hblank : b ≠ '=' := ne_of_isBlank hb (by decide)
    rw [htail]
    refine ⟨by simp [hcs.value, hvalue, hblank.symm], ?_⟩
    cases brace : (firstPiece (· == '=') ds).any isBrace with
    | true =>
      rw [declarationIn_append_of_brace hcs.value hb brace]
      exact hinert
    | false =>
      rw [declarationIn_append_of_no_brace hcs.value hb brace, words_append_cons hb]
      exact List.forall_mem_append.2 ⟨hcs.inert, hinert⟩
  refine ⟨?_, ?_, hvalue, hinert⟩
  · rw [words_append_cons hb, externalAfter, List.foldl_append]
    exact (congrArg (fun x => (words ds).foldl externalNext x) hcs.external).trans hds.external
  · rw [words_append_cons hb]
    exact awaitsName_append hcs.external hcs.name hds.name

end Append

/-! ### Complete texts -/

/-- Nothing that a text begins is open at its end. -/
structure Complete (text : String) : Prop where
  /-- No block comment is open. -/
  comment : modeAfter .code text.toList ≠ .block
  /-- No declaration of something external is open. -/
  external : externalAfter false (words (bodyOf text)) = false
  /-- No kernel awaits its name. -/
  name : awaitsName false (words (bodyOf text)) = false
  /-- No initial value is open. -/
  value : '=' ∉ tailOf (bodyOf text)
  /-- Of the declaration that is open no word counts. -/
  inert : ∀ word ∈ words (declarationIn (tailOf (bodyOf text))), Inert word

theorem complete_iff_settled {text : String} :
    Complete text ↔ modeAfter .code text.toList ≠ .block ∧ Settled (bodyOf text) :=
  ⟨fun h => ⟨h.comment, h.external, h.name, h.value, h.inert⟩,
    fun ⟨closed, h⟩ => ⟨closed, h.external, h.name, h.value, h.inert⟩⟩

/-- **After a complete text** another one defines what it defines by itself. -/
theorem Complete.symbols_append {t : String} (ht : Complete t) (u : String) :
    symbols (t ++ "\n" ++ u) = symbols t ++ symbols u := by
  obtain ⟨closed, settled⟩ := complete_iff_settled.1 ht
  rw [symbols_eq, bodyOf_append closed, settled.symbolsIn_append (by decide)]
  rfl

/-! ### A line feed at the end -/

theorem bodyOf_newline (t : String) :
    bodyOf (t ++ "\n") = bodyOf t ∨ bodyOf (t ++ "\n") = bodyOf t ++ ['\n'] := by
  have htext : (t ++ "\n").toList = t.toList ++ '\n' :: [] := by simp
  rw [bodyOf_eq, bodyOf_eq, htext, codeOf_append]
  by_cases hm : modeAfter .code t.toList = .block
  · rw [hm, codeOf_block_eq_nil (by decide), List.append_nil]
    exact Or.inl rfl
  · rw [codeOf_newline hm]
    exact Or.inr rfl

/-- **A line feed at the end** defines nothing. -/
theorem symbols_newline (t : String) : symbols (t ++ "\n") = symbols t := by
  have hglobals : ∀ cs, globalsOf (cs ++ ['\n']) = globalsOf cs := by
    intro cs
    refine ((globalsOf_append_iff (by decide) cs []).2 ?_).trans (List.append_nil _)
    have hnil : globalsIn (headOf []) = [] := rfl
    rw [hnil, List.append_nil, globalsIn, globalsIn]
    by_cases hv : '=' ∈ tailOf cs
    · rw [declarationIn_append_of_value hv]
    · rw [declarationIn_append_of_no_brace hv (by decide) (by simp [headOf, firstPiece]), globalOf?_eq,
        globalOf?_eq]
      exact congrArg (fun ws => (globalOfWords? ws).toList) (words_newline _)
  obtain h | h := bodyOf_newline t
  · simp only [symbols_eq, h]
  · simp only [symbols_eq, symbolsIn, h, words_newline, hglobals]

/-- A line feed at the end leaves a module a module. -/
theorem isModule_newline (t : String) : isModule (t ++ "\n") = isModule t := by
  have hbalanced : ∀ cs, balanced (cs ++ ['\n']) = balanced cs :=
    balanced_append_of_no_brace (by simp)
  obtain h | h := bodyOf_newline t
  · simp only [isModule_eq, h]
  · simp only [isModule_eq, h, words_newline, hbalanced]

end GpuDriver.Ptx
