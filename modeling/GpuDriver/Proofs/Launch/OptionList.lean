import GpuDriver.Launch.Packing

/-!
# What an option list announces

An option list is well-formed if it is made of pairs of a key and a value up to a null word, names the
buffer and its size, and gives an address where the size is not zero (`Announces`). Of several values
for one key the last counts, and what stands behind the null word does not. The reader accepts exactly
these lists (`bufferSize_eq_ok_iff`). It refuses all others for the same reason
(`bufferSize_eq_error_iff`), and looks at the memory only where a list points for a size
(`bufferSize_congr`).
-/

namespace GpuDriver.OptionList

open OptionWord

/-! ### The grammar -/

/-- The words of pairs of a key and a value. -/
def paired (pairs : List (OptionWord × OptionWord)) : List OptionWord :=
  pairs.flatMap fun p => [p.1, p.2]

@[simp] theorem paired_cons (p : OptionWord × OptionWord)
    (pairs : List (OptionWord × OptionWord)) : paired (p :: pairs) = p.1 :: p.2 :: paired pairs := rfl

/-- The value of the last pair with a key. -/
def lastValue? (key : OptionWord) (pairs : List (OptionWord × OptionWord)) : Option OptionWord :=
  (pairs.reverse.find? fun p => p.1 = key).map (·.2)

theorem lastValue?_cons (key : OptionWord) (p : OptionWord × OptionWord)
    (pairs : List (OptionWord × OptionWord)) : lastValue? key (p :: pairs) =
      (lastValue? key pairs).or (if p.1 = key then some p.2 else none) := by
  unfold lastValue?
  rw [List.reverse_cons, List.find?_append]
  by_cases h : p.1 = key
  · cases pairs.reverse.find? fun p => p.1 = key <;> simp [h]
  · simp [h]

/-- The pair gives the address of the buffer, or the address, not null, of its size. -/
def Known (p : OptionWord × OptionWord) : Prop :=
  p.1 = bufferKey ∨ p.1 = sizeKey ∧ p.2 ≠ terminator

/-- The list is well-formed and says that the buffer has `bytes` octets; `memory` gives the word that a
size's address points at. -/
def Announces (memory : OptionWord → Nat) (options : List OptionWord) (bytes : Nat) : Prop :=
  ∃ pairs rest address size, options = paired pairs ++ terminator :: rest ∧
    (∀ p ∈ pairs, Known p) ∧ lastValue? bufferKey pairs = some address ∧
    lastValue? sizeKey pairs = some size ∧ bytes = memory size ∧
    (address ≠ terminator ∨ bytes = 0)

/-! ### The reader -/

section Reader

variable {memory : OptionWord → Nat} {buffer : Option OptionWord} {size : Option Nat}

theorem isNull_iff {w : OptionWord} : w.isNull = true ↔ w = terminator := beq_iff_eq

/-- At the null word, the reader answers with the size that it was told last. -/
theorem read_terminator_eq_ok_iff {rest : List OptionWord} {bytes : Nat} :
    read memory buffer size (terminator :: rest) = .ok bytes ↔
      ∃ address, buffer = some address ∧ size = some bytes ∧
        (address ≠ terminator ∨ bytes = 0) := by
  have null : terminator.isNull = true := rfl
  rw [read.eq_def]
  simp only [null, if_true]
  rcases buffer with _ | address
  · simp
  rcases size with _ | told
  · simp
  simp only [Bool.or_eq_true, Bool.not_eq_true', ← Bool.not_eq_true, isNull_iff, decide_eq_true_eq,
    Option.some.injEq, exists_eq_left']
  constructor
  · intro h
    split at h
    · rename_i allowed
      cases h
      exact ⟨rfl, allowed⟩
    · cases h
  · rintro ⟨rfl, allowed⟩
    rw [if_pos allowed]

theorem read_bufferKey (value : OptionWord) (rest : List OptionWord) :
    read memory buffer size (bufferKey :: value :: rest) = read memory (some value) size rest := rfl

theorem read_sizeKey {value : OptionWord} (h : value ≠ terminator) (rest : List OptionWord) :
    read memory buffer size (sizeKey :: value :: rest) =
      read memory buffer (some (memory value)) rest := by
  have other : sizeKey ≠ bufferKey := by decide
  have filled : ¬ value.isNull = true := mt isNull_iff.1 h
  rw [read.eq_def]
  simp only [if_neg other, if_neg filled, if_true]
  rfl

/-- Pairs in front of the null word tell the reader what they say, or else it knows what it was told
before. -/
theorem read_paired_eq_ok_iff {pairs : List (OptionWord × OptionWord)} (known : ∀ p ∈ pairs, Known p)
    {rest : List OptionWord} {bytes : Nat} :
    read memory buffer size (paired pairs ++ terminator :: rest) = .ok bytes ↔
      ∃ address, (lastValue? bufferKey pairs).or buffer = some address ∧
        ((lastValue? sizeKey pairs).map memory).or size = some bytes ∧
        (address ≠ terminator ∨ bytes = 0) := by
  induction pairs generalizing buffer size with
  | nil => exact read_terminator_eq_ok_iff
  | cons p pairs ih =>
    obtain ⟨key, value⟩ := p
    have later : ∀ p ∈ pairs, Known p := fun p hp => known p (List.mem_cons_of_mem _ hp)
    rw [lastValue?_cons, lastValue?_cons]
    obtain rfl | ⟨rfl, filled⟩ := known (key, value) List.mem_cons_self
    · have other : bufferKey ≠ sizeKey := by decide
      rw [paired_cons, List.cons_append, List.cons_append, read_bufferKey, ih later, if_pos rfl,
        if_neg other, Option.or_assoc, Option.or_none, Option.some_or]
    · have other : sizeKey ≠ bufferKey := by decide
      rw [paired_cons, List.cons_append, List.cons_append, read_sizeKey filled, ih later, if_pos rfl,
        if_neg other, Option.or_none]
      cases lastValue? sizeKey pairs <;> simp

/-- What the reader accepts is made of pairs up to a null word. -/
theorem exists_paired_of_read_eq_ok {options : List OptionWord} {bytes : Nat}
    (h : read memory buffer size options = .ok bytes) :
    ∃ pairs rest, options = paired pairs ++ terminator :: rest ∧ ∀ p ∈ pairs, Known p := by
  fun_induction read memory buffer size options with
  | case2 _ rest null =>
    obtain rfl := isNull_iff.1 null
    exact ⟨[], rest, rfl, fun p hp => by cases hp⟩
  | case6 _ _ value _ _ ih =>
    obtain ⟨pairs, rest, rfl, known⟩ := ih h
    refine ⟨(bufferKey, value) :: pairs, rest, rfl, fun p hp => ?_⟩
    obtain rfl | hp := List.mem_cons.1 hp
    · exact Or.inl rfl
    · exact known p hp
  | case8 _ _ value _ filled _ _ ih =>
    obtain ⟨pairs, rest, rfl, known⟩ := ih h
    refine ⟨(sizeKey, value) :: pairs, rest, rfl, fun p hp => ?_⟩
    obtain rfl | hp := List.mem_cons.1 hp
    · exact Or.inr ⟨rfl, mt isNull_iff.2 filled⟩
    · exact known p hp
  | case1 | case3 | case4 | case5 | case7 | case9 => cases h

end Reader

/-- **The reader accepts exactly the lists that are well-formed**, with the size that they announce. -/
theorem bufferSize_eq_ok_iff {memory : OptionWord → Nat} {options : List OptionWord} {bytes : Nat} :
    bufferSize memory options = .ok bytes ↔ Announces memory options bytes := by
  unfold bufferSize Announces
  constructor
  · intro h
    obtain ⟨pairs, rest, rfl, known⟩ := exists_paired_of_read_eq_ok h
    obtain ⟨address, haddress, told, allowed⟩ := (read_paired_eq_ok_iff known).1 h
    rw [Option.or_none] at haddress told
    obtain ⟨size, hsize, rfl⟩ := Option.map_eq_some_iff.1 told
    exact ⟨pairs, rest, address, size, rfl, known, haddress, hsize, rfl, allowed⟩
  · rintro ⟨pairs, rest, address, size, rfl, known, haddress, hsize, rfl, allowed⟩
    rw [read_paired_eq_ok_iff known, haddress, hsize]
    exact ⟨address, rfl, rfl, allowed⟩

/-- The list of a buffer announces the buffer. -/
theorem announces_ofBuffer (bytes : Bytes) :
    Announces pointee (ofBuffer bytes) bytes.length :=
  bufferSize_eq_ok_iff.1 rfl

/-! ### Lists that are refused, and what is looked at -/

section

variable {memory memory' : OptionWord → Nat} {options : List OptionWord} {bytes : Nat}

/-- There is one reason for all refusals. -/
theorem eq_invalidValue_of_read {buffer : Option OptionWord} {size : Option Nat} {e : Status}
    (h : read memory buffer size options = .error e) : e = .invalidValue := by
  fun_induction read memory buffer size options with
  | case6 _ _ _ _ _ ih => exact ih h
  | case8 _ _ _ _ _ _ _ ih => exact ih h
  | case2 => cases h
  | case1 | case3 | case4 | case5 | case7 | case9 => exact (Except.error.inj h).symm

theorem bufferSize_eq_error_iff : bufferSize memory options = .error .invalidValue ↔
    ¬ ∃ bytes, Announces memory options bytes := by
  constructor
  · rintro refused ⟨bytes, announced⟩
    cases refused.symm.trans (bufferSize_eq_ok_iff.2 announced)
  · intro silent
    cases answer : bufferSize memory options with
    | ok bytes => exact absurd ⟨bytes, bufferSize_eq_ok_iff.1 answer⟩ silent
    | error e => rw [eq_invalidValue_of_read answer]

/-- A pair stands in the list one word after the other. -/
theorem infix_paired {p : OptionWord × OptionWord} {pairs : List (OptionWord × OptionWord)}
    (h : p ∈ pairs) : [p.1, p.2] <:+: paired pairs := by
  obtain ⟨front, back, rfl⟩ := List.append_of_mem h
  exact ⟨paired front, paired back, by simp [paired]⟩

theorem mem_of_lastValue? {key value : OptionWord} {pairs : List (OptionWord × OptionWord)}
    (h : lastValue? key pairs = some value) : (key, value) ∈ pairs := by
  obtain ⟨p, found, rfl⟩ := Option.map_eq_some_iff.1 h
  have named : p.1 = key := by simpa using List.find?_some found
  exact named ▸ List.mem_reverse.1 (List.mem_of_find?_eq_some found)

/-- The two memories have the same numbers where the list points for a size. -/
def SizesAgree (options : List OptionWord) (memory memory' : OptionWord → Nat) : Prop :=
  ∀ address, [sizeKey, address] <:+: options → address ≠ terminator → memory address = memory' address

theorem SizesAgree.symm (h : SizesAgree options memory memory') : SizesAgree options memory' memory :=
  fun address there filled => (h address there filled).symm

/-- What a list announces depends on the memory only there. -/
theorem Announces.congr (agree : SizesAgree options memory memory')
    (h : Announces memory options bytes) : Announces memory' options bytes := by
  obtain ⟨pairs, rest, address, size, rfl, known, buffer, last, rfl, allowed⟩ := h
  have listed := mem_of_lastValue? last
  have other : sizeKey ≠ bufferKey := by decide
  have filled : size ≠ terminator := ((known _ listed).resolve_left other).2
  have same : memory size = memory' size :=
    agree size ((infix_paired listed).trans (List.infix_append' [] _ _)) filled
  exact ⟨pairs, rest, address, size, rfl, known, buffer, last, same, allowed⟩

theorem bufferSize_congr (agree : SizesAgree options memory memory') :
    bufferSize memory options = bufferSize memory' options := by
  by_cases announced : ∃ bytes, Announces memory options bytes
  · obtain ⟨bytes, announced⟩ := announced
    rw [bufferSize_eq_ok_iff.2 announced, bufferSize_eq_ok_iff.2 (announced.congr agree)]
  · have silent : ¬ ∃ bytes, Announces memory' options bytes := fun ⟨bytes, h⟩ =>
      announced ⟨bytes, h.congr agree.symm⟩
    rw [bufferSize_eq_error_iff.2 announced, bufferSize_eq_error_iff.2 silent]

end

/-- **The reader knows the well-formed lists**, whatever words it is given and whatever is in memory. A
list that is well-formed is answered with the size that it announces, every other with one and the same
error. Memory is looked at only where the list points for a size, never at the null address. The list that
announces a buffer is answered with the length of the buffer, be it empty or not. -/
theorem option_lists_recognized (memory : OptionWord → Nat) (options : List OptionWord) :
    (∀ bytes, bufferSize memory options = .ok bytes ↔ Announces memory options bytes) ∧
    (bufferSize memory options = .error .invalidValue ↔ ¬ ∃ bytes, Announces memory options bytes) ∧
    (∀ memory', SizesAgree options memory memory' →
      bufferSize memory options = bufferSize memory' options) ∧
    ∀ p : ArgumentBuffer, bufferSize pointee p.options = .ok p.length :=
  ⟨fun _ => bufferSize_eq_ok_iff, bufferSize_eq_error_iff, fun _ => bufferSize_congr,
    fun p => bufferSize_eq_ok_iff.2 (announces_ofBuffer p.bytes)⟩

/-- A list that names its size twice, first with a null buffer, and does not end at the null word; and the
same list without that word. -/
theorem option_lists_recognized_twice :
    let words : List OptionWord :=
      [bufferKey, terminator, sizeKey, sizeCell 3, sizeKey, sizeCell 8, bufferKey, buffer [7]]
    let memory : OptionWord → Nat := fun w => if w.isNull then 5 else w.pointee
    Announces pointee (words ++ [terminator, number 9]) 8 ∧
      (¬ ∃ bytes, Announces pointee words bytes) ∧
      SizesAgree (words ++ [terminator, number 9]) pointee memory ∧
      bufferSize memory (words ++ [terminator, number 9]) = .ok 8 ∧
      bufferSize pointee (ArgumentBuffer.ofList []).options = .ok 0 := by
  intro words memory
  obtain ⟨accepted, -, looked, built⟩ :=
    option_lists_recognized pointee (words ++ [terminator, number 9])
  obtain ⟨-, refused, -, -⟩ := option_lists_recognized pointee words
  have agree : SizesAgree (words ++ [terminator, number 9]) pointee memory := by
    intro address _ filled
    exact (if_neg (mt isNull_iff.1 filled)).symm
  have announced := (accepted 8).1 rfl
  exact ⟨announced, refused.1 rfl, agree, (looked memory agree).symm.trans rfl, built _⟩

end GpuDriver.OptionList
