import GpuDriver.Proofs.Ptx.Reads
import Mathlib.Algebra.BigOperators.Group.List.Lemmas
import Mathlib.Data.List.TakeWhile

/-!
# Declarations of variables

What a declaration such as `.global .u32 name[4][2]` is read as, whatever its extents are and wherever it
stands outside of kernels (`Declaration.StandsIn.globals_symbols`). The size that is read is the product of
the width and the extents, cut down to the greatest size, but an extent that does not fit a word is counted
as zero (`Declaration.readBytes`). So what is read is the size that is declared, as far as there are sizes,
exactly if each extent fits a word or one of them is zero; otherwise it is zero
(`Declaration.readBytes_eq`).
-/

namespace GpuDriver.Ptx

open Text

/-! ### Declarations -/

/-- What is said of a variable, of whatever size, without its initial value. -/
structure Declaration where
  /-- It is said to be visible elsewhere. -/
  visible : Bool
  /-- Where it is kept. -/
  space : StateSpace
  /-- Its alignment, if it is given. -/
  align : Option Numeral
  /-- The kind of its elements. -/
  kind : ElementKind
  /-- The width of its elements. -/
  width : ElementWidth
  /-- Its name. -/
  name : Identifier
  /-- How many elements there are along each of its dimensions. -/
  extents : List Numeral

namespace Declaration

/-- The words in front of the name. -/
def front (d : Declaration) : List (List Char) :=
  visibleWords d.visible ++ d.space.word ::
    (alignWords d.align ++ ['.' :: d.kind.letter :: d.width.digits])

/-- The name with the extents. -/
def declarator (d : Declaration) : List Char :=
  d.name.chars ++ d.extents.flatMap fun n => '[' :: (n.digits ++ [']'])

/-- The octets that are declared. -/
def bytes (d : Declaration) : Nat := d.width.bytes * (d.extents.map Numeral.value).prod

end Declaration

/-- The extent that a numeral is counted as: one that does not fit a word is counted as none at all. -/
def countedExtent (n : Numeral) : Nat := if n.value < wordBound then n.value else 0

namespace Declaration

/-- The octets that are read. -/
def readBytes (d : Declaration) : Nat :=
  min (d.width.bytes * (d.extents.map countedExtent).prod) maxSize

/-- Each extent fits a word, or one of them is zero. -/
def Measured (d : Declaration) : Prop :=
  (∀ n ∈ d.extents, n.value < wordBound) ∨ ∃ n ∈ d.extents, n.value = 0

instance : DecidablePred Measured := fun _ => inferInstanceAs (Decidable (_ ∨ _))

end Declaration

/-! ### Sizes -/

theorem trimEndWhile_eq_self {p : Char → Bool} {cs : List Char} (h : ∀ c ∈ cs, p c = false) :
    trimEndWhile p cs = cs := by
  have hlast : cs.reverse.dropWhile p = cs.reverse := List.dropWhile_eq_self_iff.2 fun hl => by
    rw [h _ (List.mem_reverse.1 (List.getElem_mem hl))]
    exact Bool.false_ne_true
  rw [trimEndWhile, hlast, List.reverse_reverse]

theorem trim_eq_self {cs : List Char} (h : ∀ c ∈ cs, isBlank c = false) : trim cs = cs := by
  have hfirst : cs.dropWhile isBlank = cs := List.dropWhile_eq_self_iff.2 fun hl => by
    rw [h _ (List.getElem_mem hl)]
    exact Bool.false_ne_true
  rw [trim, trimStart, hfirst, trimEnd, trimEndWhile_eq_self h]

theorem extentOf_digits (n : Numeral) : extentOf (n.digits ++ [']']) = countedExtent n := by
  have hbracket : ∀ c ∈ n.digits, (c == ']') = false :=
    forall_beq_eq_false (n.not_mem (by decide))
  have htrim : trimEndWhile (· == ']') (n.digits ++ [']']) = n.digits := by
    rw [trimEndWhile, List.reverse_append, List.reverse_singleton, List.singleton_append,
      List.dropWhile_cons_of_pos (by rfl)]
    exact trimEndWhile_eq_self hbracket
  have hsign : n.digits.head? ≠ some '+' := fun hhead =>
    n.not_mem (by decide) (List.mem_of_head? hhead)
  have hdigits : digits? n.digits = some n.value := by
    have hall : n.digits.all Char.isDigit = true := List.all_eq_true.2 n.valid
    have hne : n.digits.isEmpty = false := by simpa using n.ne_nil
    rw [digits?, hne, hall]
    rfl
  rw [extentOf, htrim, trim_eq_self n.isWord.isBlank, natural?, if_neg hsign, hdigits, countedExtent]
  by_cases hfits : n.value < wordBound <;> simp [hfits, Option.filter]

theorem pieces_declarator {cs : List Char} (h : '[' ∉ cs) (extents : List Numeral) :
    pieces (· == '[') (cs ++ extents.flatMap fun n => '[' :: (n.digits ++ [']'])) =
      cs :: extents.map fun n => n.digits ++ [']'] := by
  induction extents generalizing cs with
  | nil =>
    rw [List.flatMap_nil, List.append_nil, pieces_eq_singleton (forall_beq_eq_false h)]
    rfl
  | cons n rest ih =>
    have hnext : '[' ∉ n.digits ++ [']'] := by
      have hdigits : '[' ∉ n.digits := n.not_mem (by decide)
      simp [hdigits]
    rw [List.flatMap_cons, List.cons_append, pieces_append_cons (by rfl),
      pieces_eq_singleton (forall_beq_eq_false h), ih hnext]
    rfl

/-- Cutting down a factor that the product is cut down to makes no difference. -/
theorem min_min_mul (k n m : Nat) : min (min k m * n) m = min (k * n) m := by
  obtain small | large := Nat.le_total k m
  · rw [Nat.min_eq_left small]
  · cases n with
    | zero => rw [Nat.mul_zero, Nat.mul_zero]
    | succ n =>
      have hk : k ≤ k * (n + 1) := Nat.le_mul_of_pos_right k n.succ_pos
      have hm : m ≤ m * (n + 1) := Nat.le_mul_of_pos_right m n.succ_pos
      rw [Nat.min_eq_right large, Nat.min_eq_right hm, Nat.min_eq_right (Nat.le_trans large hk)]

/-- **A product that is cut down at each step** is the product cut down at the end. -/
theorem foldl_cappedProduct (ns : List Nat) {k : Nat} (hk : k ≤ maxSize) :
    ns.foldl cappedProduct k = min (k * ns.prod) maxSize := by
  induction ns generalizing k with
  | nil => rw [List.foldl_nil, List.prod_nil, Nat.mul_one, Nat.min_eq_left hk]
  | cons n rest ih =>
    have hstep : cappedProduct k n ≤ maxSize := Nat.min_le_right _ _
    rw [List.foldl_cons, ih hstep, cappedProduct, min_min_mul, List.prod_cons, Nat.mul_assoc]

theorem ElementWidth.bytes_pos (w : ElementWidth) : 0 < w.bytes := by
  cases w <;> decide

namespace Declaration

theorem elementCount_declarator (d : Declaration) :
    elementCount d.declarator = min (d.extents.map countedExtent).prod maxSize := by
  have hname : '[' ∉ d.name.chars := d.name.not_mem (by decide)
  have hcounted : (fun n : Numeral => extentOf (n.digits ++ [']'])) = countedExtent :=
    funext extentOf_digits
  rw [elementCount, declarator, pieces_declarator hname, List.tail_cons, List.map_map]
  exact (foldl_cappedProduct _ (by decide)).trans (by rw [Nat.one_mul, ← hcounted]; rfl)

/-- **The size that is read.** -/
theorem cappedProduct_elementCount (d : Declaration) :
    cappedProduct d.width.bytes (elementCount d.declarator) = d.readBytes := by
  rw [elementCount_declarator, cappedProduct, Nat.mul_comm, min_min_mul, Nat.mul_comm, readBytes]

/-- **What is read is what is declared**, as far as there are sizes, if each extent fits a word or one of
them is zero. If not, it is zero. -/
theorem readBytes_eq (d : Declaration) :
    d.readBytes = if d.Measured then min d.bytes maxSize else 0 := by
  have hzero : ∀ n ∈ d.extents, countedExtent n = 0 → (d.extents.map countedExtent).prod = 0 :=
    fun n hn h => List.prod_eq_zero_iff_exists_zero_nat.2 ⟨0, List.mem_map.2 ⟨n, hn, h⟩, rfl⟩
  split
  · rename_i measured
    obtain fits | ⟨n, hn, none⟩ := measured
    · have hcounted : d.extents.map countedExtent = d.extents.map Numeral.value :=
        List.map_congr_left fun n hn => if_pos (fits n hn)
      rw [readBytes, hcounted, bytes]
    · have hcounted : countedExtent n = 0 := by rw [countedExtent, none, ite_self]
      have hprod : (d.extents.map Numeral.value).prod = 0 :=
        List.prod_eq_zero_iff_exists_zero_nat.2 ⟨0, List.mem_map.2 ⟨n, hn, none⟩, rfl⟩
      rw [readBytes, hzero n hn hcounted, bytes, hprod]
  · rename_i unmeasured
    obtain ⟨n, hn, large⟩ : ∃ n ∈ d.extents, ¬ n.value < wordBound := by
      simpa using mt Or.inl unmeasured
    rw [readBytes, hzero n hn (if_neg large)]
    rfl

theorem readBytes_eq_min_iff (d : Declaration) :
    d.readBytes = min d.bytes maxSize ↔ d.Measured := by
  refine ⟨fun read => ?_, fun measured => by rw [readBytes_eq, if_pos measured]⟩
  refine Decidable.byContradiction fun unmeasured => ?_
  have hpos : 0 < d.bytes := by
    refine Nat.mul_pos d.width.bytes_pos (List.prod_pos_iff_forall_pos_nat.2 fun k hk => ?_)
    obtain ⟨n, hn, rfl⟩ := List.mem_map.1 hk
    exact Nat.pos_of_ne_zero fun none => unmeasured (Or.inr ⟨n, hn, none⟩)
  rw [readBytes_eq, if_neg unmeasured] at read
  exact absurd read (Nat.ne_of_lt (Nat.lt_min.2 ⟨hpos, by decide⟩))

/-! ### Words of a declaration -/

/-- What holds of the words that can stand in front of the name of a variable. -/
theorem forall_front (d : Declaration) {P : List Char → Prop}
    (keyword : ∀ word ∈ [".visible".toList, ".global".toList, ".const".toList, ".align".toList], P word)
    (type : ∀ (kind : ElementKind) (width : ElementWidth), P ('.' :: kind.letter :: width.digits))
    (number : ∀ n : Numeral, P n.digits) : ∀ word ∈ d.front, P word := by
  have space : P d.space.word := by
    cases d.space
    · exact keyword _ (by decide)
    · exact keyword _ (by decide)
  refine List.forall_mem_append.2 ⟨forall_visibleWords (keyword _ (by decide)) _,
    List.forall_mem_cons.2 ⟨space, List.forall_mem_append.2
      ⟨?_, List.forall_mem_singleton.2 (type d.kind d.width)⟩⟩⟩
  cases d.align with
  | none => exact fun _ hw => absurd hw List.not_mem_nil
  | some n =>
    exact List.forall_mem_cons.2 ⟨keyword _ (by decide), List.forall_mem_singleton.2 (number n)⟩

theorem isWord_front (d : Declaration) : ∀ word ∈ d.front, IsWord word := by
  refine d.forall_front (fun word hw => isWord_of_decide ?_) (fun kind width => ?_) Numeral.isWord
  · revert word
    decide
  · cases kind <;> cases width <;> exact isWord_of_decide (by decide)

theorem isWord_declarator (d : Declaration) : IsWord d.declarator := by
  refine ⟨by simp [declarator, Identifier.chars], List.forall_mem_append.2 ⟨d.name.isWord.valid, ?_⟩⟩
  intro c hc
  obtain ⟨n, -, hc⟩ := List.mem_flatMap.1 hc
  obtain rfl | hc := List.mem_cons.1 hc
  · decide
  · obtain hc | hc := List.mem_append.1 hc
    · exact n.isWord.valid c hc
    · rw [List.mem_singleton.1 hc]
      decide

/-- No word in front of the name of a variable says that a kernel begins or that something is defined
elsewhere. -/
theorem ne_of_mem_front (d : Declaration) :
    ∀ word ∈ d.front, word ≠ ".entry".toList ∧ word ≠ ".extern".toList := by
  refine d.forall_front (by decide) (fun kind width => ?_) fun n => ?_
  · cases kind <;> cases width <;> decide
  · constructor <;> rintro heq
    all_goals exact n.not_mem (x := '.') (by decide) (heq ▸ List.mem_cons_self)

theorem head?_declarator (d : Declaration) : d.declarator.head? ≠ some '.' := by
  have hdot : '.' ∉ d.name.chars := d.name.not_mem (by decide)
  exact fun hhead => hdot (Option.some.inj hhead ▸ List.mem_cons_self)

/-- The first word that names a type with a size is the type of the variable. -/
theorem findSome?_front (d : Declaration) : d.front.findSome? typeSize? = some d.width.bytes := by
  have visible : (visibleWords d.visible).findSome? typeSize? = none := by
    cases d.visible <;> decide
  have space : typeSize? d.space.word = none := by
    cases d.space <;> decide
  have align : (alignWords d.align).findSome? typeSize? = none := by
    cases d.align with
    | none => rfl
    | some n =>
      have number : typeSize? n.digits = none :=
        (inert_of_head? (head?_ne_of_not_mem (n.not_mem (by decide)))).2
      have keyword : typeSize? ".align".toList = none := by decide
      rw [alignWords, List.findSome?_cons, keyword, List.findSome?_cons, number]
      rfl
  have type : typeSize? ('.' :: d.kind.letter :: d.width.digits) = some d.width.bytes := by
    cases d.kind <;> cases d.width <;> decide
  rw [front, List.findSome?_append, visible, Option.none_or, List.findSome?_cons, space]
  dsimp only
  rw [List.findSome?_append, align, Option.none_or, List.findSome?_cons, type]

/-! ### The text of a declaration -/

/-- The text is the declaration without its semicolon: the words in front of the name, the name with the
extents, and perhaps an initial value behind its sign. -/
inductive Spells (d : Declaration) : List Char → Prop
  | mk {front gap value : List Char} (hf : Row d.front front) (hg : IsGap gap)
      (sign : ∀ c ∈ value.head?, c = '=') (semicolon : ';' ∉ value) :
      Spells d (front ++ d.declarator ++ gap ++ value)

section Spells

variable {d : Declaration} {front gap value : List Char} (hf : Row d.front front) (hg : IsGap gap)

include hf hg

theorem plain_front_declarator : Plain (front ++ d.declarator ++ gap) :=
  ((hf.plain d.isWord_front).append d.isWord_declarator.plain).append hg.plain

theorem words_front_declarator :
    words (front ++ d.declarator ++ gap) = d.front ++ [d.declarator] := by
  rw [words_append_gap hg, hf.words_append d.isWord_front,
    words_eq_singleton d.isWord_declarator.ne_nil d.isWord_declarator.isBlank]

/-- The initial value is cut off. -/
theorem firstPiece_value (sign : ∀ c ∈ value.head?, c = '=') :
    firstPiece (· == '=') (front ++ d.declarator ++ gap ++ value) = front ++ d.declarator ++ gap := by
  have hvalue : firstPiece (· == '=') value = [] := by
    cases value with
    | nil => rfl
    | cons c rest =>
      obtain rfl : c = '=' := sign c rfl
      rfl
  have plain := plain_front_declarator hf hg
  rw [firstPiece_append_of_forall (forall_beq_eq_false (plain.not_mem (by decide))), hvalue,
    List.append_nil]

/-- The variable that is read in the words of a declaration. -/
theorem globalOf?_eq_some :
    globalOf? (front ++ d.declarator ++ gap) = some ⟨String.ofList d.name.chars, d.readBytes⟩ := by
  have hspace : ".global".toList ∈ d.front ++ [d.declarator] ∨
      ".const".toList ∈ d.front ++ [d.declarator] := by
    have hword : d.space.word ∈ d.front ++ [d.declarator] :=
      List.mem_append_left _ (List.mem_append_right _ List.mem_cons_self)
    cases hs : d.space with
    | global =>
      rw [hs] at hword
      exact Or.inl hword
    | const =>
      rw [hs] at hword
      exact Or.inr hword
  have hextern : ".extern".toList ∉ d.front ++ [d.declarator] := by
    refine List.not_mem_append (fun hm => (d.ne_of_mem_front _ hm).2 rfl) fun hm => ?_
    have hhead := d.head?_declarator
    rw [← List.mem_singleton.1 hm] at hhead
    exact hhead rfl
  have hlast : [d.declarator].getLast? = some d.declarator := List.getLast?_singleton
  have hname : firstPiece (· == '[') d.declarator = d.name.chars := by
    have hextents : firstPiece (· == '[') (d.extents.flatMap fun n => '[' :: (n.digits ++ [']'])) =
        [] := by
      cases d.extents <;> rfl
    rw [declarator, firstPiece_append_of_forall (forall_beq_eq_false (d.name.not_mem (by decide))),
      hextents, List.append_nil]
  rw [globalOf?_eq, words_front_declarator hf hg,
    globalOfWords?_append_eq_some hspace hextern hlast d.head?_declarator, List.findSome?_append,
    d.findSome?_front, Option.some_or, Option.getD_some, d.cappedProduct_elementCount, hname]

end Spells

end Declaration

/-! ### Declarations in a text -/

/-- Nothing is begun at the end of the text that would take up words of a declaration behind it. -/
structure Clear (body : List Char) : Prop where
  /-- No initial value is open. -/
  value : '=' ∉ tailOf body
  /-- Of the declaration that is open no word counts. -/
  inert : ∀ word ∈ words (declarationIn (tailOf body)), Inert word
  /-- Its last word is ended. -/
  blank : ∀ c ∈ (declarationIn (tailOf body)).getLast?, isBlank c = true

section Clear

variable {body : List Char} {d : Declaration} {front gap value : List Char}

theorem clear_nil : Clear [] where
  value := List.not_mem_nil
  inert := fun _ hw => absurd hw List.not_mem_nil
  blank := fun _ hc => absurd hc (Option.not_mem_none _)

/-- **A declaration in a piece** that begins with nothing that counts is read as if it came first. -/
theorem Clear.globalsIn_append (h : Clear body) (hf : Row d.front front) (hg : IsGap gap)
    (sign : ∀ c ∈ value.head?, c = '=') :
    globalsIn (tailOf body ++ (front ++ d.declarator ++ gap ++ value)) =
      [⟨String.ofList d.name.chars, d.readBytes⟩] := by
  have plain := Declaration.plain_front_declarator hf hg
  have hdeclaration : declarationIn (tailOf body ++ (front ++ d.declarator ++ gap ++ value)) =
      declarationIn (tailOf body) ++ (front ++ d.declarator ++ gap) := by
    rw [declarationIn_eq, firstPiece_append_of_forall (forall_beq_eq_false h.value),
      Declaration.firstPiece_value hf hg sign, lastPiece_append_of_forall plain.isBrace,
      declarationIn_of_no_value h.value]
  have hread : globalOf? (declarationIn (tailOf body) ++ (front ++ d.declarator ++ gap)) =
      globalOf? (front ++ d.declarator ++ gap) := by
    obtain hnil | ⟨begun, b, hbegun⟩ := List.eq_nil_or_concat' (declarationIn (tailOf body))
    · rw [hnil, List.nil_append]
    · have hinert := h.inert
      have hb : isBlank b = true := h.blank b (by rw [hbegun]; exact List.getLast?_concat)
      rw [hbegun, words_append_cons hb] at hinert
      rw [hbegun, List.append_assoc, List.singleton_append]
      exact globalOf?_append (fun word hw => hinert word (List.mem_append_left _ hw)) hb _
  rw [globalsIn, hdeclaration, hread, Declaration.globalOf?_eq_some hf hg]
  rfl

/-- Behind a text in which nothing is begun, a declaration declares its variable. -/
theorem Clear.globalsOf_append (h : Clear body) {chunk : List Char} (hd : d.Spells chunk) :
    globalsOf (body ++ chunk) = globalsOf body ++ [⟨String.ofList d.name.chars, d.readBytes⟩] := by
  have htail : ∀ c ∈ tailOf body, (c == ';') = false := fun c => eq_false_of_mem_lastPiece
  obtain ⟨hf, hg, sign, semicolon⟩ := hd
  rename_i front gap value
  have hchunk : ';' ∉ front ++ d.declarator ++ gap ++ value := List.not_mem_append
    ((Declaration.plain_front_declarator hf hg).not_mem (by decide)) semicolon
  obtain ⟨before, hbefore⟩ := exists_globalsOf_append_tail body
  have hnone : globalsOf (tailOf body) = [] := by
    rw [globalsOf_of_forall htail, globalsIn, globalOf?_eq_none h.inert]
    rfl
  have hbody : globalsOf body = before := by simpa [hnone] using hbefore []
  have hpiece : ∀ c ∈ tailOf body ++ (front ++ d.declarator ++ gap ++ value), (c == ';') = false :=
    List.forall_mem_append.2 ⟨htail, forall_beq_eq_false hchunk⟩
  rw [hbefore, hbody, globalsOf_of_forall hpiece, h.globalsIn_append hf hg sign]

end Clear

namespace Declaration

/-- The declaration stands in the text: behind `before`, and with `after` behind its semicolon. -/
structure StandsIn (d : Declaration) (text : String) (before after : List Char) : Prop where
  clear : Clear before
  spells : ∃ chunk, d.Spells chunk ∧ bodyOf text = before ++ chunk ++ ';' :: after

/-- **A declaration that stands in a text** declares its variable there, with the size that is read. -/
theorem StandsIn.globals_symbols {d : Declaration} {text : String} {before after : List Char}
    (h : d.StandsIn text before after) : (symbols text).globals =
      globalsOf before ++ ⟨String.ofList d.name.chars, d.readBytes⟩ :: globalsOf after := by
  obtain ⟨chunk, hd, hbody⟩ := h.spells
  have hsymbols : (symbols text).globals = globalsOf (bodyOf text) := rfl
  rw [hsymbols, hbody, globalsOf_append_cons, h.clear.globalsOf_append hd, List.append_assoc]
  rfl

end Declaration

end GpuDriver.Ptx
