import Mathlib.Data.List.DropRight
import GpuDriver.Proofs.Source.Flaw
import GpuDriver.Proofs.Source.Translation
import GpuDriver.Source.Kernel

/-!
# Where kernels are found

A marker announces a kernel with the text up to the next parenthesis; the identifier at the end of that
text is the kernel's name. Markers are found left to right, none inside another (`Places`), and several of
them may announce the same parenthesis, or none. The scan goes from the end of an announcement back to the
first character that cannot stand in an identifier and steps over it as if it were one octet: if it is
longer, the scan breaks off (`IsTorn`). So a source can make the scan break off, and exactly then it does
not find its kernels (`kernels_found`).
-/

namespace GpuDriver.Source

open Text

/-! ### What there is to find -/

/-- The places of a word in a text, left to right from the place `i` on, none inside another. -/
inductive Places (word cs : List Char) : Nat → List Nat → Prop
  /-- The word is nowhere. -/
  | none {i : Nat} (nowhere : ∀ j, i ≤ j → ¬ word <+: cs.drop j) : Places word cs i []
  /-- It is at the place `j` for the first time, and then behind that. -/
  | found {i j : Nat} {js : List Nat} (le : i ≤ j) (here : word <+: cs.drop j)
    (first : ∀ k, i ≤ k → k < j → ¬ word <+: cs.drop k)
    (behind : Places word cs (j + word.length) js) : Places word cs i (j :: js)

/-- What stands from the place `i` on up to the next parenthesis, without the blanks in front of that. -/
structure Announces (cs : List Char) (i : Nat) (head : List Char) : Prop where
  /-- The parenthesis follows, perhaps behind blanks, and there is none before it. -/
  there : ∃ blanks rest, cs.drop i = head ++ blanks ++ '(' :: rest ∧ '(' ∉ head ++ blanks ∧
    ∀ c ∈ blanks, isBlank c = true
  /-- There are no more blanks in front. -/
  trimmed : ∀ c, head.getLast? = some c → isBlank c = false

/-- The last character of a text that cannot stand in an identifier takes more than one octet. -/
def IsTorn (head : List Char) : Prop :=
  ∃ front c name, head = front ++ c :: name ∧ isIdentifierChar c = false ∧ 1 < c.utf8Size ∧
    ∀ d ∈ name, isIdentifierChar d = true

/-- The longest run of characters at the end of a text that can stand in an identifier. -/
structure IsFinalName (head name : List Char) : Prop where
  /-- There is one. -/
  ne_nil : name ≠ []
  /-- All of it can stand in an identifier. -/
  valid : ∀ c ∈ name, isIdentifierChar c = true
  /-- It is at the end, and what is in front of it cannot. -/
  longest : ∃ front, head = front ++ name ∧
    ∀ c, front.getLast? = some c → isIdentifierChar c = false

/-- What is found at a place. -/
inductive Finds (cs : List Char) (i : Nat) : Option String → Prop
  /-- A kernel is announced, and its name is at the end. -/
  | name {head name : List Char} (announced : Announces cs i head) (final : IsFinalName head name) :
    Finds cs i (some (String.ofList name))
  /-- No kernel is announced, or what announces it does not end in an identifier. -/
  | nothing (nameless : ∀ head, Announces cs i head → ∀ c, head.getLast? = some c →
      isIdentifierChar c = false) : Finds cs i none

/-- The scan breaks off at one of the places. -/
def BreaksOff (cs : List Char) (places : List Nat) : Prop :=
  ∃ i ∈ places, ∃ head, Announces cs i head ∧ IsTorn head

/-! ### Places -/

section Places

variable {word cs : List Char} {i : Nat} {js js' : List Nat}

/-- Where the word is not, the search goes on behind. -/
theorem Places.of_succ (nothing : ¬ word <+: cs.drop i) (h : Places word cs (i + 1) js) :
    Places word cs i js := by
  have later {k : Nat} (hk : i ≤ k) (there : word <+: cs.drop k) : i + 1 ≤ k := by
    obtain rfl | lt := Nat.eq_or_lt_of_le hk
    · exact absurd there nothing
    · exact lt
  cases h with
  | none nowhere => exact .none fun j hj there => nowhere j (later hj there) there
  | found le here first behind =>
    exact .found (Nat.le_of_succ_le le) here
      (fun k hk lt there => first k (later hk there) lt there) behind

/-- There is only one way to find all places. -/
theorem Places.unique (h : Places word cs i js) (h' : Places word cs i js') : js' = js := by
  induction h generalizing js' with
  | none nowhere =>
    cases h' with
    | none => rfl
    | found le here => exact absurd here (nowhere _ le)
  | @found i j js le here first behind ih =>
    cases h' with
    | none nowhere => exact absurd here (nowhere _ le)
    | @found _ j' js' le' here' first' behind' =>
      obtain rfl : j' = j := by
        refine Nat.le_antisymm (Nat.not_lt.1 fun lt => ?_) (Nat.not_lt.1 fun lt => ?_)
        · exact first' j le lt here
        · exact first j' le' lt here'
      rw [ih behind']

/-- **The occurrences of a word** are the texts from its places on. -/
theorem exists_places_occurrencesFrom (hword : word ≠ []) (skip : Nat) :
    ∃ js, Places word cs (i + skip) js ∧
      occurrencesFrom word skip (cs.drop i) = js.map fun j => cs.drop j := by
  generalize hrest : cs.drop i = rest
  induction rest generalizing i skip with
  | nil =>
    refine ⟨[], .none fun j hj there => hword ?_, rfl⟩
    have ended : cs.drop j = [] :=
      List.drop_eq_nil_of_le ((List.drop_eq_nil_iff.1 hrest).trans ((Nat.le_add_right i skip).trans hj))
    exact List.prefix_nil.1 (ended ▸ there)
  | cons c rest ih =>
    have next : cs.drop (i + 1) = rest := by rw [← List.drop_drop, hrest]; rfl
    rw [occurrencesFrom]
    split
    · rename_i inside
      obtain ⟨js, places, texts⟩ := ih (skip - 1) next
      rw [Nat.add_assoc, Nat.add_sub_cancel' (Nat.one_le_iff_ne_zero.2 inside)] at places
      exact ⟨js, places, texts⟩
    · rename_i outside
      obtain rfl : skip = 0 := Decidable.not_not.1 outside
      split
      · rename_i here
        obtain ⟨js, places, texts⟩ := ih (word.length - 1) next
        rw [Nat.add_assoc, Nat.add_sub_cancel' (List.length_pos_iff.2 hword)] at places
        have here : word <+: cs.drop i := hrest ▸ List.isPrefixOf_iff_prefix.1 here
        refine ⟨i :: js, .found le_rfl here (fun k hk lt => absurd hk (Nat.not_le.2 lt)) places, ?_⟩
        rw [texts, List.map_cons, hrest]
      · rename_i nothing
        obtain ⟨js, places, texts⟩ := ih 0 next
        refine ⟨js, .of_succ (fun there => nothing ?_) places, texts⟩
        exact List.isPrefixOf_iff_prefix.2 (hrest ▸ there)

end Places

/-! ### The run at the end of a text -/

section Run

variable {p : Char → Bool} {cs front run : List Char}

/-- What is in front of the last run does not end with a character of the run. -/
theorem eq_false_of_getLast?_rdropWhile {c : Char} (last : (cs.rdropWhile p).getLast? = some c) :
    p c = false := by
  obtain ⟨nonempty, rfl⟩ := List.mem_getLast?_eq_getLast last
  exact eq_false_of_ne_true (List.rdropWhile_last_not p cs nonempty)

/-- A text is cut before its last run in one way only. -/
theorem rtakeWhile_append (valid : ∀ c ∈ run, p c = true)
    (longest : ∀ c, front.getLast? = some c → p c = false) :
    (front ++ run).rtakeWhile p = run ∧ (front ++ run).rdropWhile p = front := by
  have stop : front.reverse.takeWhile p = [] := by
    cases hrev : front.reverse with
    | nil => rfl
    | cons c rest =>
      have last : front.getLast? = some c := by rw [← List.head?_reverse, hrev]; rfl
      exact List.takeWhile_cons_of_neg (by simp [longest c last])
  have taken : (front ++ run).rtakeWhile p = run := by
    rw [List.rtakeWhile, List.reverse_append,
      List.takeWhile_append_of_pos fun c hc => valid c (List.mem_reverse.1 hc), stop]
    simp
  refine ⟨taken, (List.append_left_inj run).1 ?_⟩
  have whole : (front ++ run).rdropWhile p ++ (front ++ run).rtakeWhile p = front ++ run :=
    List.rdropWhile_append_rtakeWhile
  rwa [taken] at whole

/-- Without a run at the end a text stays as it is. -/
theorem rdropWhile_eq_self_iff : cs.rdropWhile p = cs ↔ ∀ c, cs.getLast? = some c → p c = false := by
  constructor
  · intro kept c last
    exact eq_false_of_getLast?_rdropWhile (kept.symm ▸ last)
  · intro outside
    have cut : (cs ++ []).rtakeWhile p = [] ∧ (cs ++ []).rdropWhile p = cs :=
      rtakeWhile_append (by simp) outside
    rw [List.append_nil] at cut
    exact cut.2

theorem rtakeWhile_eq_nil_iff : cs.rtakeWhile p = [] ↔ ∀ c, cs.getLast? = some c → p c = false := by
  rw [← rdropWhile_eq_self_iff]
  have whole : cs.rdropWhile p ++ cs.rtakeWhile p = cs := List.rdropWhile_append_rtakeWhile
  constructor
  · intro none
    rwa [none, List.append_nil] at whole
  · intro kept
    rw [kept] at whole
    exact List.append_right_eq_self.1 whole

end Run

/-! ### The name at the end -/

section Name

variable {head name : List Char}

theorem isTorn_iff : IsTorn head ↔
    ∃ c, (head.rdropWhile isIdentifierChar).getLast? = some c ∧ 1 < c.utf8Size := by
  constructor
  · rintro ⟨front, c, name, rfl, outside, long, valid⟩
    have last : ∀ d, (front ++ [c]).getLast? = some d → isIdentifierChar d = false := by
      simp [outside]
    have cut := (rtakeWhile_append valid last).2
    rw [List.append_assoc, List.singleton_append] at cut
    exact ⟨c, by rw [cut, List.getLast?_concat], long⟩
  · rintro ⟨c, last, long⟩
    obtain ⟨front, cut⟩ := List.getLast?_eq_some_iff.1 last
    refine ⟨front, c, head.rtakeWhile isIdentifierChar, ?_, eq_false_of_getLast?_rdropWhile last, long,
      fun d => List.mem_rtakeWhile_imp⟩
    rw [← List.singleton_append, ← List.append_assoc, ← cut, List.rdropWhile_append_rtakeWhile]

theorem isFinalName_iff : IsFinalName head name ↔
    head.rtakeWhile isIdentifierChar = name ∧ name ≠ [] := by
  constructor
  · rintro ⟨nonempty, valid, front, rfl, longest⟩
    exact ⟨(rtakeWhile_append valid longest).1, nonempty⟩
  · rintro ⟨rfl, nonempty⟩
    exact ⟨nonempty, fun c => List.mem_rtakeWhile_imp, head.rdropWhile isIdentifierChar,
      List.rdropWhile_append_rtakeWhile.symm, fun c => eq_false_of_getLast?_rdropWhile⟩

/-- The name at the end, if there is one. -/
def finalName? (head : List Char) : Option String :=
  if head.rtakeWhile isIdentifierChar = [] then none
  else some (String.ofList (head.rtakeWhile isIdentifierChar))

/-- **The scan for a name** breaks off or finds what is at the end. -/
theorem finalIdentifier_eq [Decidable (IsTorn head)] : finalIdentifier head =
    if IsTorn head then .error .torn else .ok (finalName? head) := by
  have last : (head.reverse.dropWhile isIdentifierChar).head? =
      (head.rdropWhile isIdentifierChar).getLast? := by
    rw [List.rdropWhile, List.getLast?_reverse]
  have name : (if ((head.reverse.takeWhile isIdentifierChar).reverse).isEmpty then none
      else some (String.ofList (head.reverse.takeWhile isIdentifierChar).reverse)) =
        finalName? head := by
    simp only [List.isEmpty_iff]
    rfl
  unfold finalIdentifier
  simp only [last, name, isTorn_iff]
  cases (head.rdropWhile isIdentifierChar).getLast? with
  | none => simp
  | some c => simp

end Name

/-! ### Announcements -/

section Announcement

variable {cs head : List Char} {i : Nat}

theorem announces_iff : Announces cs i head ↔
    '(' ∈ cs.drop i ∧ trimEnd (firstPiece (· == '(') (cs.drop i)) = head := by
  constructor
  · rintro ⟨⟨blanks, rest, text, none, blank⟩, trimmed⟩
    have before := firstPiece_append_of_forall (forall_beq_eq_false none) ('(' :: rest)
    have cut : firstPiece (· == '(') (cs.drop i) = head ++ blanks := by
      rw [text, before]
      exact List.append_nil _
    refine ⟨text ▸ by simp, ?_⟩
    rw [cut, trimEnd_append blank, trimEnd_eq_rdropWhile, rdropWhile_eq_self_iff.2 trimmed]
  · rintro ⟨paren, rfl⟩
    obtain none | ⟨c, rest, hc, text⟩ := exists_firstPiece_append (· == '(') (cs.drop i)
    · rw [none] at paren
      exact absurd (eq_false_of_mem_firstPiece paren) (by decide)
    · obtain rfl : c = '(' := beq_iff_eq.1 hc
      obtain ⟨blanks, blank, whole⟩ := exists_trimEnd_append (firstPiece (· == '(') (cs.drop i))
      refine ⟨⟨blanks, rest, ?_, ?_, blank⟩, fun c => eq_false_of_getLast?_rdropWhile⟩
      · rw [whole]
        exact text
      · rw [whole]
        exact fun inside => absurd (eq_false_of_mem_firstPiece inside) (by decide)

/-- A place announces at most one text. -/
theorem Announces.unique {head' : List Char} (h : Announces cs i head) (h' : Announces cs i head') :
    head' = head :=
  (announces_iff.1 h').2.symm.trans (announces_iff.1 h).2

theorem kernelName_of_announces (h : Announces cs i head) :
    kernelName (cs.drop i) = finalIdentifier head := by
  obtain ⟨paren, rfl⟩ := announces_iff.1 h
  exact if_pos (List.contains_iff_mem.2 paren)

theorem kernelName_of_nowhere (nowhere : ∀ head, ¬ Announces cs i head) :
    kernelName (cs.drop i) = .ok none :=
  if_neg fun paren => nowhere _ (announces_iff.2 ⟨List.contains_iff_mem.1 paren, rfl⟩)

variable {found : Option String}

theorem finds_iff_of_announces (h : Announces cs i head) :
    Finds cs i found ↔ finalName? head = found := by
  unfold finalName?
  constructor
  · intro hf
    cases hf with
    | @name head' name announced final =>
      obtain rfl := h.unique announced
      obtain ⟨rfl, nonempty⟩ := isFinalName_iff.1 final
      exact if_neg nonempty
    | nothing nameless => exact if_pos (rtakeWhile_eq_nil_iff.2 (nameless head h))
  · rintro rfl
    split
    · rename_i none
      exact .nothing fun head' h' => h.unique h' ▸ rtakeWhile_eq_nil_iff.1 none
    · rename_i nonempty
      exact .name h (isFinalName_iff.2 ⟨rfl, nonempty⟩)

theorem finds_iff_of_nowhere (nowhere : ∀ head, ¬ Announces cs i head) :
    Finds cs i found ↔ found = none := by
  constructor
  · intro hf
    cases hf with
    | name announced final => exact absurd announced (nowhere _)
    | nothing => rfl
  · rintro rfl
    exact .nothing fun head announced => absurd announced (nowhere head)

open Classical in
/-- **What comes of a place**: the scan breaks off there, or finds what there is. -/
theorem kernelName_cases (cs : List Char) (i : Nat) :
    (kernelName (cs.drop i) = .error .torn ∧ ∃ head, Announces cs i head ∧ IsTorn head) ∨
      (¬ ∃ head, Announces cs i head ∧ IsTorn head) ∧
        ∃ found, kernelName (cs.drop i) = .ok found ∧ ∀ found', Finds cs i found' ↔ found' = found := by
  by_cases announced : ∃ head, Announces cs i head
  · obtain ⟨head, announced⟩ := announced
    rw [kernelName_of_announces announced, finalIdentifier_eq]
    by_cases torn : IsTorn head
    · exact Or.inl ⟨if_pos torn, head, announced, torn⟩
    · refine Or.inr ⟨?_, finalName? head, if_neg torn, fun _ =>
        (finds_iff_of_announces announced).trans eq_comm⟩
      rintro ⟨head', announced', torn'⟩
      exact torn (announced.unique announced' ▸ torn')
  · have nowhere : ∀ head, ¬ Announces cs i head := not_exists.1 announced
    refine Or.inr ⟨?_, none, kernelName_of_nowhere nowhere, fun _ => finds_iff_of_nowhere nowhere⟩
    exact fun ⟨head, there, _⟩ => nowhere head there

theorem kernelName_eq_error_iff : kernelName (cs.drop i) = .error .torn ↔
    ∃ head, Announces cs i head ∧ IsTorn head := by
  obtain ⟨broken, torn⟩ | ⟨whole, found, hf, -⟩ := kernelName_cases cs i
  · exact iff_of_true broken torn
  · exact iff_of_false (by rw [hf]; nofun) whole

theorem kernelName_eq_ok_iff : kernelName (cs.drop i) = .ok found ↔
    (¬ ∃ head, Announces cs i head ∧ IsTorn head) ∧ Finds cs i found := by
  obtain ⟨broken, torn⟩ | ⟨whole, found', hf, finds⟩ := kernelName_cases cs i
  · exact iff_of_false (by rw [broken]; nofun) fun h => h.1 torn
  · rw [hf, finds, and_iff_right whole, Except.ok.injEq, eq_comm]

end Announcement

/-! ### The whole source -/

section Source

theorem mapM_eq_torn_iff {α β : Type} {f : α → Except Torn β} {as : List α} :
    as.mapM f = .error .torn ↔ ∃ a ∈ as, f a = .error .torn := by
  induction as with
  | nil => simp [pure, Except.pure]
  | cons a rest ih =>
    rw [List.mapM_cons, List.exists_mem_cons_iff, ← ih]
    rcases f a with (_ | _) | b
    · simp [bind, Except.bind]
    rcases rest.mapM f with (_ | _) | bs
    · simp [bind, Except.bind]
    · simp [bind, Except.bind, pure, Except.pure]

/-- The texts that announce kernels are those from the places of the marker on. -/
theorem exists_places (cs : List Char) : ∃ places, Places marker cs 0 places ∧
    occurrences marker cs = places.map fun i => cs.drop i :=
  exists_places_occurrencesFrom (by decide) 0

variable {source : String} {places : List Nat} (hplaces : Places marker source.toList 0 places)

include hplaces

theorem occurrences_eq : occurrences marker source.toList =
    places.map fun i => source.toList.drop i := by
  obtain ⟨places', hplaces', texts⟩ := exists_places source.toList
  rwa [hplaces'.unique hplaces]

theorem kernelNames_eq_error_iff :
    kernelNames source = .error .torn ↔ BreaksOff source.toList places := by
  have scan : (occurrences marker source.toList).mapM kernelName = .error .torn ↔
      BreaksOff source.toList places := by
    rw [occurrences_eq hplaces, mapM_eq_torn_iff]
    simp only [List.mem_map, exists_exists_and_eq_and, kernelName_eq_error_iff, BreaksOff]
  rw [← scan, kernelNames]
  rcases (occurrences marker source.toList).mapM kernelName with (_ | _) | found <;> simp [Except.map]

theorem kernelNames_eq_ok_iff {names : List String} : kernelNames source = .ok names ↔
    ¬ BreaksOff source.toList places ∧
      ∃ found, List.Forall₂ (Finds source.toList) places found ∧ found.reduceOption = names := by
  have scan (found : List (Option String)) :
      (occurrences marker source.toList).mapM kernelName = .ok found ↔
        ¬ BreaksOff source.toList places ∧ List.Forall₂ (Finds source.toList) places found := by
    rw [occurrences_eq hplaces, mapM_eq_ok_iff, List.forall₂_map_left_iff]
    simp only [kernelName_eq_ok_iff, List.forall₂_and_left, BreaksOff, not_exists, not_and]
  calc kernelNames source = .ok names
    _ ↔ ∃ found, (occurrences marker source.toList).mapM kernelName = .ok found ∧
        found.reduceOption = names := by
      rw [kernelNames]
      cases (occurrences marker source.toList).mapM kernelName with
      | error e => simp [Except.map]
      | ok found =>
        constructor
        · exact fun same => ⟨found, rfl, Except.ok.inj same⟩
        · rintro ⟨_, scanned, same⟩
          obtain rfl := Except.ok.inj scanned
          exact congrArg Except.ok same
    _ ↔ _ := by simp only [scan, and_assoc, exists_and_left]

omit hplaces in
/-- **How kernels are found.** The markers of a source are at certain places, each the first behind the
one before. Finding the kernels breaks off exactly if at one of these places a text is announced whose last
character that cannot stand in an identifier takes more than one octet; and then a source without a flaw
is not translated either. Otherwise what is found are the names at the ends of the announced texts, in the
order of the places, and nothing at a place where no parenthesis follows or where the text does not end in
an identifier. -/
theorem kernels_found (source : String) :
    ∃ places, Places marker source.toList 0 places ∧
      (∀ others, Places marker source.toList 0 others → others = places) ∧
      (kernelNames source = .error .torn ↔ BreaksOff source.toList places) ∧
      (∀ target, translate source target = .error .torn ↔
        flaw? source = none ∧ BreaksOff source.toList places) ∧
      ∀ names, kernelNames source = .ok names ↔ ¬ BreaksOff source.toList places ∧
        ∃ found, List.Forall₂ (Finds source.toList) places found ∧ found.reduceOption = names := by
  obtain ⟨places, hplaces, -⟩ := exists_places source.toList
  refine ⟨places, hplaces, fun others => hplaces.unique, kernelNames_eq_error_iff hplaces,
    fun target => ?_, fun names => kernelNames_eq_ok_iff hplaces⟩
  rw [← kernelNames_eq_error_iff hplaces, translate]
  cases flaw? source with
  | some flaw => simp
  | none => rcases kernelNames source with (_ | _) | kernels <;> simp

/-- Two markers announce the same parenthesis, and one more announces none; a character of two octets
breaks the scan off only if nothing but the name is behind it. -/
example : kernelNames "__global__ void __global__ k	(__global__ x" = .ok ["k", "k"] ∧
    kernelNames "__global__ é k(" = .ok ["k"] ∧
      kernelNames "__global__ ék(" = .error .torn := by decide +kernel

end Source

end GpuDriver.Source
