import GpuDriver.Proofs.Ptx.Reads

/-!
# Reading kernels

The text of a kernel defines the kernel and nothing else (`Kernel.reads`): its name is read up to the
parameters, and of its statements none begins a kernel or declares a variable, whatever they assign.
-/

namespace GpuDriver.Ptx

open Text

/-! ### Statements -/

/-- What precedes an initial value declares nothing if the whole has no word for a state space. -/
theorem globalOf?_firstPiece_eq_none {cs : List Char} (hg : ".global".toList ∉ words (cs ++ [';']))
    (hc : ".const".toList ∉ words (cs ++ [';'])) :
    globalOf? (firstPiece (· == '=') cs) = none := by
  -- a word for a state space can only come from a longer one that the sign cuts, and then it is the last
  have hlast : ∀ word, word ∉ words (cs ++ [';']) →
      word ∈ words (firstPiece (· == '=') cs) →
        (words (firstPiece (· == '=') cs)).getLast? = some word := by
    intro word hword hm
    obtain ⟨rest, hrest⟩ : ∃ rest, cs ++ [';'] = firstPiece (· == '=') cs ++ rest := by
      obtain h | ⟨c, rest, -, h⟩ := exists_firstPiece_append (· == '=') cs
      · exact ⟨[';'], by rw [← h]⟩
      · exact ⟨c :: rest ++ [';'], by rw [← List.append_assoc, ← h]⟩
    obtain hm | hm := mem_words_append hm rest
    · exact absurd (hrest ▸ hm) hword
    · exact hm
  rw [globalOf?_eq, globalOfWords?]
  split
  · rename_i hcond
    simp only [Bool.and_eq_true, Bool.or_eq_true, List.contains_iff_mem] at hcond
    obtain ⟨hm | hm, -⟩ := hcond
    · rw [hlast _ hg hm]
      rfl
    · rw [hlast _ hc hm]
      rfl
  · rfl

/-- Behind a brace, an initial value apart, a text without braces is a declaration of its own. -/
theorem globalsIn_statement {opening cs : List Char} (hvalue : '=' ∉ opening)
    (hopening : lastPiece isBrace opening = []) (hbrace : ∀ c ∈ cs, isBrace c = false)
    (hg : ".global".toList ∉ words (cs ++ [';'])) (hc : ".const".toList ∉ words (cs ++ [';'])) :
    globalsIn (opening ++ cs) = [] := by
  have hcut : ∀ c ∈ firstPiece (· == '=') cs, isBrace c = false := fun c hm =>
    hbrace c ((List.takeWhile_sublist _).mem hm)
  rw [globalsIn, declarationIn_eq, firstPiece_append_of_forall (forall_beq_eq_false hvalue),
    lastPiece_append_of_forall hcut, hopening, List.nil_append, globalOf?_firstPiece_eq_none hg hc]
  rfl

/-- **Statements declare nothing**, and nothing is open behind the brace that closes them. -/
theorem globalsOf_statements {gap : List Char} (hgap : IsGap gap) {statements : List (List Char)}
    (hvalid : ∀ cs ∈ statements, ∀ c ∈ cs, c ≠ ';' ∧ isBrace c = false)
    (hwords : ∀ cs ∈ statements, ∀ word ∈ reservedWords, word ∉ words (cs ++ [';']))
    {opening : List Char} (hvalue : '=' ∉ opening) (hsemi : ';' ∉ opening)
    (hopening : lastPiece isBrace opening = []) {body : List Char}
    (hbody : body = opening ++ statements.flatMap (fun cs => cs ++ [';']) ++ gap ++ ['\x7d']) :
    globalsOf body = [] ∧ '=' ∉ tailOf body ∧ declarationIn (tailOf body) = [] := by
  induction statements generalizing opening body with
  | nil =>
    have hbody : body = (opening ++ gap) ++ ['\x7d'] := by simpa using hbody
    have hfree : ∀ x : Char, isBlank x = false → x ≠ '\x7d' → x ∉ opening → x ∉ body := by
      intro x hx hclose hopen
      have hgapx : x ∉ gap := fun hm => by
        rw [hgap x hm] at hx
        cases hx
      simp [hbody, hopen, hgapx, hclose]
    have hvalue := hfree '=' (by decide) (by decide) hvalue
    have hsemi := forall_beq_eq_false (hfree ';' (by decide) (by decide) hsemi)
    have htail : tailOf body = body := lastPiece_eq_self hsemi
    have hdeclaration : declarationIn body = [] := by
      rw [declarationIn_of_no_value hvalue, hbody]
      exact lastPiece_append_cons (by rfl) (opening ++ gap) []
    rw [htail, globalsOf_of_forall hsemi, globalsIn, hdeclaration]
    exact ⟨rfl, hvalue, rfl⟩
  | cons cs rest ih =>
    obtain ⟨hcs, hrest⟩ := List.forall_mem_cons.1 hvalid
    obtain ⟨hcw, hrw⟩ := List.forall_mem_cons.1 hwords
    have hnil : lastPiece isBrace [] = [] := rfl
    obtain ⟨hglobals, hv, hd⟩ := ih hrest hrw List.not_mem_nil List.not_mem_nil hnil rfl
    have hbody : body = (opening ++ cs) ++ ';' ::
        ([] ++ rest.flatMap (fun cs => cs ++ [';']) ++ gap ++ ['\x7d']) := by
      simpa using hbody
    have hsemi : ';' ∉ opening ++ cs :=
      List.not_mem_append hsemi fun hm => (hcs _ hm).1 rfl
    have hstatement : globalsOf (opening ++ cs) = [] := by
      rw [globalsOf_of_forall (forall_beq_eq_false hsemi)]
      exact globalsIn_statement hvalue hopening (fun c hm => (hcs c hm).2) (hcw _ (by decide))
        (hcw _ (by decide))
    have htail : tailOf body =
        tailOf ([] ++ rest.flatMap (fun cs => cs ++ [';']) ++ gap ++ ['\x7d']) := by
      rw [hbody]
      exact lastPiece_append_cons (by rfl) _ _
    rw [htail, hbody, globalsOf_append_cons, hstatement, hglobals]
    exact ⟨rfl, hv, hd⟩

theorem not_mem_words_append_cons {x : Char} {cs ds word : List Char} (hx : isBlank x = false)
    (hword : x ∉ word) (hcs : word ∉ words cs ∨ word ∉ words (cs ++ [x])) (hds : word ∉ words ds) :
    word ∉ words (cs ++ x :: ds) := by
  intro hm
  obtain ⟨hm, hm'⟩ | hm := mem_words_append_cons hx hword hm
  · exact hcs.elim (fun h => h hm) fun h => h hm'
  · exact hds hm

/-- No word of the statements begins a kernel. -/
theorem not_mem_words_statements {gap : List Char} (hgap : IsGap gap) {statements : List (List Char)}
    (hwords : ∀ cs ∈ statements, ∀ word ∈ reservedWords, word ∉ words (cs ++ [';'])) :
    ".entry".toList ∉ words (statements.flatMap (fun cs => cs ++ [';']) ++ gap) := by
  induction statements with
  | nil =>
    have hnil : words gap = [] := words_eq_nil hgap
    rw [List.flatMap_nil, List.nil_append, hnil]
    exact List.not_mem_nil
  | cons cs rest ih =>
    obtain ⟨hcs, hrest⟩ := List.forall_mem_cons.1 hwords
    rw [List.flatMap_cons, List.append_assoc, List.append_assoc, List.singleton_append]
    exact not_mem_words_append_cons (by decide) (by decide) (Or.inr (hcs _ (by decide))) (ih hrest)

/-- The name of a kernel is read up to its parameters, whether they follow at once or not. -/
theorem entryName?_append (name : Identifier) {gap : List Char} (hg : IsGap gap) (ds : List Char) :
    (words (name.chars ++ (gap ++ '(' :: ds))).head?.bind entryName? =
      some (String.ofList name.chars) := by
  have hgap : firstPiece (· == '(') (firstPiece isBlank (gap ++ '(' :: ds)) = [] := by
    cases gap with
    | nil => rfl
    | cons b gap =>
      have hb : isBlank b = true := hg b List.mem_cons_self
      simp [firstPiece, hb]
  have hname := firstPiece_append_of_forall (forall_beq_eq_false (name.not_mem (x := '(') (by decide)))
    (firstPiece isBlank (gap ++ '(' :: ds))
  rw [hgap, List.append_nil] at hname
  rw [head?_words_append name.isWord.ne_nil name.isWord.isBlank, Option.bind_some, entryName?, hname]
  rfl

section Kernel

variable {k : Kernel} {front gap gap' gap'' : List Char} (hf : Row k.front front) (hg : IsGap gap)
  (hg' : IsGap gap') (hg'' : IsGap gap'')

/-- A kernel up to the brace that opens its statements. -/
def Kernel.opening (k : Kernel) (front gap gap' : List Char) : List Char :=
  front ++ k.name.chars ++ gap ++ '(' :: k.params ++ ')' :: gap'

section Opening

include hf hg hg'

/-- A character that is in no word and not in the parameters is nowhere before the statements. -/
theorem Kernel.not_mem_opening {x : Char} (hx : (!isBlank x && !isWordChar x) = true)
    (hparams : x ∉ k.params) (hparens : x ≠ '(' ∧ x ≠ ')') : x ∉ k.opening front gap gap' := by
  have plain : Plain (front ++ k.name.chars ++ gap) :=
    ((hf.plain k.isWord_front).append k.name.isWord.plain).append hg.plain
  refine List.not_mem_append (List.not_mem_append (plain.not_mem hx) ?_) ?_
  · exact List.not_mem_cons_of_ne_of_not_mem hparens.1 hparams
  · exact List.not_mem_cons_of_ne_of_not_mem hparens.2 (hg'.plain.not_mem hx)

theorem Kernel.not_mem_opening_of_mem {x : Char} (hx : x ∈ [';', '=', '\x7b', '\x7d']) :
    x ∉ k.opening front gap gap' := by
  have hchar : ∀ x ∈ [';', '=', '\x7b', '\x7d'],
      (!isBlank x && !isWordChar x) = true ∧ x ≠ '(' ∧ x ≠ ')' := by decide
  have hbad : ∀ x ∈ [';', '=', '\x7b', '\x7d'], x = ';' ∨ x = '=' ∨ isBrace x = true := by decide
  refine Kernel.not_mem_opening hf hg hg' (hchar x hx).1 (fun hm => ?_) (hchar x hx).2
  obtain ⟨hsemi, hvalue, hbrace⟩ := k.params_valid x hm
  obtain h | h | h := hbad x hx
  · exact hsemi h
  · exact hvalue h
  · rw [h] at hbrace
    cases hbrace

end Opening

include hf hg hg' hg''

/-- A kernel is found by its name. -/
theorem Kernel.entriesOf_eq :
    entriesOf false (words (k.opening front gap gap' ++ '\x7b' :: k.body ++ gap'' ++ ['\x7d'])) =
      [String.ofList k.name.chars] := by
  have hsplit : k.opening front gap gap' ++ '\x7b' :: k.body ++ gap'' ++ ['\x7d'] = front ++
      (k.name.chars ++ (gap ++ '(' :: (k.params ++ ')' :: (gap' ++
        '\x7b' :: ((k.body ++ gap'') ++ '\x7d' :: []))))) := by
    simp [Kernel.opening]
  have hname : words (k.name.chars ++ gap) = [k.name.chars] := by
    rw [words_append_gap hg, words_eq_singleton k.name.isWord.ne_nil k.name.isWord.isBlank]
  have hnameEntry : ".entry".toList ∉ words (k.name.chars ++ gap) := by
    rw [hname]
    intro hm
    have hdot : '.' ∉ k.name.chars := k.name.not_mem (by decide)
    rw [← List.mem_singleton.1 hm] at hdot
    exact hdot List.mem_cons_self
  have hgapEntry : ".entry".toList ∉ words gap' := by
    rw [words_eq_nil hg']
    exact List.not_mem_nil
  have hbody := not_mem_words_statements hg'' k.statements_words
  have hentry : ".entry".toList ∉ words (k.name.chars ++ (gap ++ '(' :: (k.params ++ ')' :: (gap' ++
      '\x7b' :: ((k.body ++ gap'') ++ '\x7d' :: []))))) := by
    rw [← List.append_assoc]
    refine not_mem_words_append_cons (by decide) (by decide) (Or.inl hnameEntry) ?_
    refine not_mem_words_append_cons (by decide) (by decide)
      (Or.inl (k.params_words _ (by decide))) ?_
    refine not_mem_words_append_cons (by decide) (by decide) (Or.inl hgapEntry) ?_
    exact not_mem_words_append_cons (by decide) (by decide) (Or.inl hbody) List.not_mem_nil
  have hfront : entriesOf false k.front = [] ∧ awaitsName false k.front = true := by
    unfold Kernel.front
    cases k.visible <;> decide
  rw [hsplit, hf.words_append k.isWord_front, entriesOf_append, hfront.1, hfront.2, if_pos rfl,
    entryName?_append k.name hg, entriesOf_eq_nil hentry]
  rfl

theorem Kernel.balanced :
    Text.balanced (k.opening front gap gap' ++ '\x7b' :: k.body ++ gap'' ++ ['\x7d']) = true := by
  have hmem : ∀ c, isBrace c = true → c ∈ [';', '=', '\x7b', '\x7d'] := by
    intro c hc
    simp only [isBrace, Bool.or_eq_true, beq_iff_eq] at hc
    obtain rfl | rfl := hc <;> decide
  have hopening : ∀ c ∈ k.opening front gap gap', isBrace c = false := fun c hc =>
    Bool.eq_false_iff.2 fun hbrace => Kernel.not_mem_opening_of_mem hf hg hg' (hmem c hbrace) hc
  have hbody : ∀ c ∈ k.body ++ gap'', isBrace c = false := by
    refine List.forall_mem_append.2 ⟨fun c hc => ?_, hg''.plain.isBrace⟩
    obtain ⟨cs, hcs, hc⟩ := List.mem_flatMap.1 hc
    obtain hc | hc := List.mem_append.1 hc
    · exact (k.statements_valid cs hcs c hc).2
    · rw [List.mem_singleton.1 hc]
      rfl
  have hinner : braceDepth 1 (k.body ++ gap'' ++ ['\x7d']) = some 0 := by
    rw [braceDepth_append, braceDepth_of_no_brace fun c hc => by simpa [isBrace] using hbody c hc]
    rfl
  rw [List.append_assoc, List.append_assoc, balanced_append (balanced_of_no_brace hopening),
    List.cons_append, ← List.append_assoc, Text.balanced, braceDepth, if_pos rfl, hinner]
  rfl

/-- **A kernel** defines itself, and its statements define nothing. -/
theorem Kernel.reads :
    Reads (k.opening front gap gap' ++ '\x7b' :: k.body ++ gap'' ++ ['\x7d'])
      (Item.kernel k).symbols := by
  have hvalue : '=' ∉ k.opening front gap gap' ++ ['\x7b'] :=
    List.not_mem_append (Kernel.not_mem_opening_of_mem hf hg hg' (by decide)) (by decide)
  have hsemi : ';' ∉ k.opening front gap gap' ++ ['\x7b'] :=
    List.not_mem_append (Kernel.not_mem_opening_of_mem hf hg hg' (by decide)) (by decide)
  have hopening : lastPiece isBrace (k.opening front gap gap' ++ ['\x7b']) = [] :=
    lastPiece_append_cons (by rfl) _ []
  have hsplit : k.opening front gap gap' ++ '\x7b' :: k.body ++ gap'' ++ ['\x7d'] =
      k.opening front gap gap' ++ ['\x7b'] ++ k.body ++ gap'' ++ ['\x7d'] := by
    simp
  obtain ⟨hglobals, hv, hd⟩ := globalsOf_statements hg'' k.statements_valid k.statements_words hvalue
    hsemi hopening hsplit
  obtain ⟨external, name⟩ := closed_words (Or.inr rfl)
    (k.opening front gap gap' ++ '\x7b' :: k.body ++ gap'')
  refine ⟨⟨external, name, hv, ?_⟩, ?_, Kernel.balanced hf hg hg' hg''⟩
  · rw [hd]
    exact fun _ hw => absurd hw List.not_mem_nil
  · rw [symbolsIn, Kernel.entriesOf_eq hf hg hg' hg'', hglobals]
    rfl

end Kernel

end GpuDriver.Ptx
