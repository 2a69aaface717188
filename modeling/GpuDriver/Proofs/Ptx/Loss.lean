import GpuDriver.Proofs.Ptx.Complete

/-!
# What an incomplete text does to the next one

After a text that is not complete there is always a module that means something else than by itself
(`exists_loses`), so that completeness is the weakest condition on a text alone under which the symbols of
two texts are those of their joining (`complete_iff`). For each way to be incomplete a module is given: one
that declares a variable, one that defines nothing, one that begins with braces, or one that defines a
kernel of a new name.
-/

namespace GpuDriver.Ptx

open Text

/-- The second text does not define after the first what it defines by itself. -/
def Loses (t u : String) : Prop := symbols (t ++ "\n" ++ u) ≠ symbols t ++ symbols u

/-- A module that can be linked after a text and ends with its line: it defines each kernel once and none
that the text defines. -/
structure Linkable (t u : String) : Prop where
  /-- It is a module. -/
  valid : isModule u = true
  /-- It ends with a line feed. -/
  ending : u.toList.getLast? = some '\n'
  /-- It defines each kernel once. -/
  nodup : (symbols u).entries.Nodup
  /-- It defines no kernel that the text defines. -/
  distinct : ∀ name ∈ (symbols u).entries, name ∉ (symbols t).entries

/-! ### Modules to go on with -/

/-- A module that defines nothing. -/
def emptyModule : String := ".version 7.0\n.target sm_70\n"

/-- A module that begins with a pair of braces. -/
def bracedModule : String := "\x7b \x7d\n.version 7.0\n.target sm_70\n"

/-- A module that declares a variable of one octet. -/
def octetModule : String := ".global .b8 x;\n.version 7.0\n.target sm_70\n"

/-- A module that declares a variable of two octets. -/
def pairModule : String := ".global .b16 x;\n.version 7.0\n.target sm_70\n"

/-- The modules that define no kernel. -/
def kernelless : List String := [emptyModule, bracedModule, octetModule, pairModule]

theorem bodyOf_of_mem {u : String} (hu : u ∈ kernelless) : bodyOf u = u.toList := by
  have plain : ∀ u ∈ kernelless, '/' ∉ u.toList := by decide
  exact bodyOf_eq_self (plain u hu)

theorem entries_of_mem {u : String} (hu : u ∈ kernelless) : (symbols u).entries = [] := by
  have none : ∀ u ∈ kernelless, entriesOf false (words u.toList) = [] := by decide
  rw [symbols_eq, bodyOf_of_mem hu]
  exact none u hu

theorem linkable_of_mem {u : String} (hu : u ∈ kernelless) (t : String) : Linkable t u where
  valid := by
    have valid : ∀ u ∈ kernelless, ((words u.toList).contains ".version".toList &&
        (words u.toList).contains ".target".toList && balanced u.toList) = true := by decide
    rw [isModule_eq, bodyOf_of_mem hu]
    exact valid u hu
  ending := by
    have ending : ∀ u ∈ kernelless, u.toList.getLast? = some '\n' := by decide
    exact ending u hu
  nodup := by
    rw [entries_of_mem hu]
    exact List.nodup_nil
  distinct := by simp [entries_of_mem hu]

/-- What precedes the name in a module that defines a kernel. -/
def kernelFront : String := ".version 7.0\n.target sm_70\n.entry"

/-- A name of `n + 1` letters. -/
def letters (n : Nat) : List Char := List.replicate (n + 1) 'k'

/-- A module that defines a kernel with such a name. -/
def kernelModule (n : Nat) : String :=
  String.ofList (kernelFront.toList ++ ' ' :: (letters n ++ ['\n']))

section Kernel

variable (n : Nat)

theorem length_letters : (letters n).length = n + 1 := List.length_replicate

theorem forall_letters {p : Char → Prop} (hp : p 'k') : ∀ c ∈ letters n, p c := fun c hc => by
  rwa [List.eq_of_mem_replicate hc]

theorem bodyOf_kernelModule :
    bodyOf (kernelModule n) = kernelFront.toList ++ ' ' :: (letters n ++ ['\n']) := by
  have front : '/' ∉ kernelFront.toList := by decide
  have name : '/' ∉ letters n := fun h => absurd rfl (forall_letters n (p := (· ≠ '/')) (by decide) _ h)
  rw [bodyOf_eq, kernelModule, String.toList_ofList, codeOf_code_eq_self]
  simp [front, name]

theorem words_kernelModule :
    words (bodyOf (kernelModule n)) = words kernelFront.toList ++ [letters n] := by
  have hname : words (letters n) = [letters n] :=
    words_eq_singleton (List.cons_ne_nil _ _) (forall_letters n (by decide))
  rw [bodyOf_kernelModule, words_append_cons (by decide), words_newline, hname]

/-- The kernel is found, unless a declaration of something external goes on in front of the module. -/
theorem entriesOf_kernelModule (external : Bool) :
    entriesOf external (words (bodyOf (kernelModule n))) =
      if external then [] else [String.ofList (letters n)] := by
  have hname : entryName? (letters n) = some (String.ofList (letters n)) := by
    rw [entryName?, firstPiece_eq_self (forall_letters n (by decide))]
    rfl
  have hlast : ∀ x, entriesOf x [letters n] = [] := fun x => by
    rw [entriesOf_cons]
    simp [entriesOf]
  have hfront : ∀ x, entriesOf x (words kernelFront.toList) = [] := by decide
  have hawaits : ∀ x, awaitsName x (words kernelFront.toList) = !x := by decide
  rw [words_kernelModule, entriesOf_append, hfront, hawaits, hlast]
  cases external <;> simp [hname]

theorem isModule_kernelModule : isModule (kernelModule n) = true := by
  have version : ".version".toList ∈ words kernelFront.toList := by decide
  have target : ".target".toList ∈ words kernelFront.toList := by decide
  simp only [isModule_eq, words_kernelModule, Bool.and_eq_true, List.contains_iff_mem]
  refine ⟨⟨List.mem_append_left _ version, List.mem_append_left _ target⟩, ?_⟩
  rw [bodyOf_kernelModule, balanced_append_of_no_brace]
  · decide
  · intro c hc
    simp only [List.mem_cons, List.mem_append, List.not_mem_nil, or_false] at hc
    obtain rfl | hc | rfl := hc
    · decide
    · exact forall_letters n (p := fun c => c ≠ '\x7b' ∧ c ≠ '\x7d') (by decide) c hc
    · decide

theorem getLast?_kernelModule : (kernelModule n).toList.getLast? = some '\n' := by
  rw [kernelModule, String.toList_ofList, ← List.cons_append, ← List.append_assoc]
  exact List.getLast?_concat

theorem linkable_kernelModule {t : String}
    (new : String.ofList (letters n) ∉ (symbols t).entries) : Linkable t (kernelModule n) := by
  have hentries : (symbols (kernelModule n)).entries = [String.ofList (letters n)] :=
    entriesOf_kernelModule n false
  refine ⟨isModule_kernelModule n, getLast?_kernelModule n, ?_, ?_⟩
  · simp [hentries]
  · simpa [hentries] using new

/-- The shortest such module. -/
theorem symbols_kernelModule : symbols (kernelModule 0) = ⟨["k"], []⟩ := by
  rw [symbols_eq, bodyOf_kernelModule]
  rfl

end Kernel

/-- There is always a name that is not taken. -/
theorem exists_new_name (names : List String) : ∃ n, String.ofList (letters n) ∉ names := by
  refine ⟨(names.map String.length).max?.getD 0, fun h => ?_⟩
  have hle := List.le_max?_getD_of_mem (k := 0) (List.mem_map_of_mem (f := String.length) h)
  rw [String.length_ofList, length_letters] at hle
  omega

/-! ### Declarations that go on -/

/-- What a row of words declares if the row says that it declares something here. -/
theorem globalOfWords?_append_eq_some {ws vs : List (List Char)} {declarator : List Char}
    (hg : ".global".toList ∈ ws ++ vs ∨ ".const".toList ∈ ws ++ vs)
    (hx : ".extern".toList ∉ ws ++ vs) (hlast : vs.getLast? = some declarator)
    (hname : declarator.head? ≠ some '.') :
    globalOfWords? (ws ++ vs) = some {
      name := String.ofList (firstPiece (· == '[') declarator)
      bytes := cappedProduct (((ws ++ vs).findSome? typeSize?).getD 1)
        (elementCount declarator) } := by
  have hcond : (((ws ++ vs).contains ".global".toList || (ws ++ vs).contains ".const".toList) &&
      !(ws ++ vs).contains ".extern".toList) = true := by
    rw [Bool.and_eq_true, Bool.or_eq_true, Bool.not_eq_true', ← Bool.not_eq_true]
    simp only [List.contains_iff_mem]
    exact ⟨hg, hx⟩
  have hlast' : (ws ++ vs).getLast? = some declarator := by
    rw [List.getLast?_append, hlast, Option.some_or]
  rw [globalOfWords?, if_pos hcond, hlast']
  exact if_neg hname

theorem globalOfWords?_eq_none {ws : List (List Char)} (hx : ".extern".toList ∈ ws) :
    globalOfWords? ws = none := by
  have hx : ws.contains ".extern".toList = true := List.contains_iff_mem.2 hx
  rw [globalOfWords?, hx, Bool.not_true, Bool.and_false]
  rfl

/-- The words of the declaration that a text begins with. -/
def headWords (u : String) : List (List Char) := words (declarationIn (headOf u.toList))

/-- A type that was named before prevails over the one that the next text names. -/
theorem globalOfWords?_append_of_size {ws : List (List Char)} (hx : ".extern".toList ∉ ws)
    {size : Nat} (hsize : ws.findSome? typeSize? = some size) {u : String}
    (hu : u ∈ [octetModule, pairModule]) :
    globalOfWords? (ws ++ headWords u) = some ⟨"x", min size maxSize⟩ := by
  have hwords : ∀ u ∈ [octetModule, pairModule], ".extern".toList ∉ headWords u ∧
      ".global".toList ∈ headWords u ∧ (headWords u).getLast? = some ['x'] := by decide
  obtain ⟨hhead, hglobal, hlast⟩ := hwords u hu
  have hcount : elementCount ['x'] = 1 := by decide
  rw [globalOfWords?_append_eq_some (Or.inl (List.mem_append_right _ hglobal))
    (List.not_mem_append hx hhead) hlast (by decide), List.findSome?_append, hsize, hcount,
    Option.some_or, Option.getD_some, cappedProduct, Nat.mul_one]
  rfl

/-- After a row with a word that counts some declaration is another one than by itself. -/
theorem exists_globalOfWords?_ne {ws : List (List Char)} (h : ¬ ∀ word ∈ ws, Inert word) :
    ∃ u ∈ kernelless.erase bracedModule,
      globalOfWords? (ws ++ headWords u) ≠ globalOfWords? (headWords u) := by
  have hempty : globalOfWords? (headWords emptyModule) = none := by decide
  have hoctet : globalOfWords? (headWords octetModule) = some ⟨"x", 1⟩ := by decide
  have hpair : globalOfWords? (headWords pairModule) = some ⟨"x", 2⟩ := by decide
  by_cases hx : ".extern".toList ∈ ws
  · refine ⟨octetModule, by decide, ?_⟩
    rw [globalOfWords?_eq_none (List.mem_append_left _ hx), hoctet]
    exact (Option.some_ne_none _).symm
  by_cases hg : ".global".toList ∈ ws ∨ ".const".toList ∈ ws
  · refine ⟨emptyModule, by decide, ?_⟩
    have hhead : ".extern".toList ∉ headWords emptyModule := by decide
    have hlast : (headWords emptyModule).getLast? = some "sm_70".toList := by decide
    rw [globalOfWords?_append_eq_some
      (hg.imp (List.mem_append_left _) (List.mem_append_left _))
      (List.not_mem_append hx hhead) hlast (by decide), hempty]
    exact Option.some_ne_none _
  -- What is left is a type of some size, which another size in the next text does not replace.
  obtain ⟨size, hsize⟩ : ∃ size, ws.findSome? typeSize? = some size := by
    rw [← Option.ne_none_iff_exists', ne_eq, List.findSome?_eq_none_iff]
    refine fun hnone => h fun word hword => ⟨?_, hnone word hword⟩
    simp only [List.mem_cons, List.not_mem_nil, or_false]
    rintro (rfl | rfl | rfl)
    · exact hg (Or.inl hword)
    · exact hg (Or.inr hword)
    · exact hx hword
  by_cases hone : min size maxSize = 1
  · refine ⟨pairModule, by decide, ?_⟩
    rw [globalOfWords?_append_of_size hx hsize (by decide), hpair, hone]
    decide
  · refine ⟨octetModule, by decide, ?_⟩
    rw [globalOfWords?_append_of_size hx hsize (by decide), hoctet]
    simpa using hone

/-! ### A loss for each way to be incomplete -/

section Loss

variable {t u : String}

/-- An open comment hides the next text. -/
theorem loses_of_comment (h : modeAfter .code t.toList = .block) : Loses t octetModule := by
  intro heq
  have htext : (t ++ "\n" ++ octetModule).toList = t.toList ++ '\n' :: octetModule.toList := by simp
  have hbody : bodyOf (t ++ "\n" ++ octetModule) = bodyOf t := by
    rw [bodyOf_eq, bodyOf_eq, htext, codeOf_append, h,
      codeOf_block_eq_nil (by decide), List.append_nil]
  have hglobals : (symbols octetModule).globals = [⟨"x", 1⟩] := by
    rw [symbols_eq, bodyOf_of_mem (by decide)]
    rfl
  have hlength := congrArg (fun s => s.globals.length) heq
  simp only [Symbols.append_def, hglobals, List.length_append, List.length_singleton] at hlength
  simp only [symbols_eq, hbody] at hlength
  omega

section Closed

variable (closed : modeAfter .code t.toList ≠ .block)

include closed

theorem loses_of_entries (h : entriesOf false (words (bodyOf t) ++ words (bodyOf u)) ≠
    (symbols t).entries ++ (symbols u).entries) : Loses t u := by
  intro heq
  have hentries := congrArg Symbols.entries heq
  simp only [symbols_eq, symbolsIn, bodyOf_append closed, words_append_newline] at hentries
  exact h hentries

theorem loses_of_globals (h : globalsIn (tailOf (bodyOf t) ++ '\n' :: headOf (bodyOf u)) ≠
    globalsIn (tailOf (bodyOf t)) ++ globalsIn (headOf (bodyOf u))) : Loses t u := by
  intro heq
  have hglobals := congrArg Symbols.globals heq
  simp only [symbols_eq, symbolsIn, bodyOf_append closed] at hglobals
  exact h ((globalsOf_append_iff (by decide) _ _).1 hglobals)

/-- What stands first in the next text is taken for the name of a kernel. -/
theorem loses_of_name (h : awaitsName false (words (bodyOf t)) = true) :
    Loses t emptyModule := by
  have hbody : bodyOf emptyModule = emptyModule.toList := bodyOf_of_mem (by decide)
  have hnone : (symbols emptyModule).entries = [] := entries_of_mem (by decide)
  refine loses_of_entries closed ?_
  have hlength := congrArg List.length (entriesOf_append false (words (bodyOf t))
    (words emptyModule.toList))
  have hhead : ((words emptyModule.toList).head?.bind entryName?).toList.length = 1 := by decide
  rw [h, if_pos rfl, List.length_append, List.length_append, hhead] at hlength
  intro heq
  rw [hbody, hnone, List.append_nil] at heq
  rw [heq] at hlength
  simp only [symbols_eq, symbolsIn] at hlength
  omega

/-- A kernel of the next text is taken for one that is defined elsewhere. -/
theorem loses_of_external (hname : awaitsName false (words (bodyOf t)) = false)
    (h : externalAfter false (words (bodyOf t)) = true) (n : Nat) :
    Loses t (kernelModule n) := by
  refine loses_of_entries closed ?_
  rw [entriesOf_append, hname, h, entriesOf_kernelModule, symbols_eq, symbols_eq, symbolsIn,
    symbolsIn, entriesOf_kernelModule]
  simp

/-- A declaration of the next text is taken for a part of an initial value. -/
theorem loses_of_value (h : '=' ∈ tailOf (bodyOf t)) : Loses t octetModule := by
  have hbody : bodyOf octetModule = octetModule.toList := bodyOf_of_mem (by decide)
  have hhead : (globalsIn (headOf octetModule.toList)).length = 1 := by decide
  refine loses_of_globals closed ?_
  rw [hbody, globalsIn, declarationIn_append_of_value h, ← globalsIn]
  intro heq
  have hlength := congrArg List.length heq
  rw [List.length_append, hhead] at hlength
  omega

/-- The next text goes on with a declaration of which a word counts, or breaks it off. -/
theorem exists_loses_of_word (hv : '=' ∉ tailOf (bodyOf t))
    (h : ¬ ∀ word ∈ words (declarationIn (tailOf (bodyOf t))), Inert word) :
    ∃ u ∈ kernelless, Loses t u := by
  cases hg : globalOf? (declarationIn (tailOf (bodyOf t))) with
  | some g =>
    have hbody : bodyOf bracedModule = bracedModule.toList := bodyOf_of_mem (by decide)
    have hnone : globalOf? (declarationIn (headOf bracedModule.toList)) = none := by decide
    refine ⟨bracedModule, by decide, loses_of_globals closed ?_⟩
    rw [hbody, globalsIn, declarationIn_append_of_brace hv (by decide) (by decide), globalsIn, hg, globalsIn,
      hnone]
    simp
  | none =>
    obtain ⟨u, hu, hne⟩ := exists_globalOfWords?_ne h
    have hmem : u ∈ kernelless := List.mem_of_mem_erase hu
    have hbrace : ∀ u ∈ kernelless.erase bracedModule,
        (firstPiece (· == '=') (headOf u.toList)).any isBrace = false := by decide
    refine ⟨u, hmem, loses_of_globals closed fun heq => hne ?_⟩
    rw [bodyOf_of_mem hmem, globalsIn, declarationIn_append_of_no_brace hv (by decide) (hbrace u hu),
      globalsIn, hg, globalsIn, Option.toList_none, List.nil_append, globalOf?_eq,
      words_append_newline, globalOf?_eq] at heq
    simpa [headWords] using congrArg List.head? heq

end Closed

end Loss

/-! ### Completeness is what is needed -/

/-- **An incomplete text loses something**: there is a module that can be linked after it and does not
define after it what it defines by itself. -/
theorem exists_loses {t : String} (h : ¬ Complete t) : ∃ u, Linkable t u ∧ Loses t u := by
  by_cases closed : modeAfter .code t.toList = .block
  · exact ⟨octetModule, linkable_of_mem (by decide) t, loses_of_comment closed⟩
  by_cases hname : awaitsName false (words (bodyOf t)) = true
  · exact ⟨emptyModule, linkable_of_mem (by decide) t, loses_of_name closed hname⟩
  rw [Bool.not_eq_true] at hname
  by_cases hexternal : externalAfter false (words (bodyOf t)) = true
  · obtain ⟨n, new⟩ := exists_new_name (symbols t).entries
    exact ⟨kernelModule n, linkable_kernelModule n new, loses_of_external closed hname hexternal n⟩
  rw [Bool.not_eq_true] at hexternal
  by_cases hvalue : '=' ∈ tailOf (bodyOf t)
  · exact ⟨octetModule, linkable_of_mem (by decide) t, loses_of_value closed hvalue⟩
  obtain ⟨u, hu, hloses⟩ := exists_loses_of_word closed hvalue fun inert =>
    h ⟨closed, hexternal, hname, hvalue, inert⟩
  exact ⟨u, linkable_of_mem hu t, hloses⟩

/-- **A text is complete** exactly if every module after it defines what it defines by itself. -/
theorem complete_iff {t : String} : Complete t ↔
    ∀ u, isModule u = true → symbols (t ++ "\n" ++ u) = symbols t ++ symbols u := by
  refine ⟨fun ht u _ => ht.symbols_append u, fun h => ?_⟩
  refine Classical.byContradiction fun hn => ?_
  obtain ⟨u, hu, hloses⟩ := exists_loses hn
  exact hloses (h u hu.valid)

end GpuDriver.Ptx
