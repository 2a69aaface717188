import Mathlib.Data.List.Induction
import Mathlib.Data.Nat.Digits.Defs
import GpuDriver.Text.Numeral

/-!
# Numerals

A number is read back from its decimal digits, with or without zeros in front, and with its sign
(`integer?_signedDecimal`). Of two numbers the smaller has no more digits, so that all numbers up to some
number can be written equally wide (`length_paddedDecimal`). Only zeros in front leave the value as it
is, so the numerals of the number one are known (`int64?_eq_some_one_iff`).
-/

namespace GpuDriver.Text

theorem toList_decimal (n : Nat) : (decimal n).toList = Nat.toDigits 10 n := Nat.toList_repr

theorem length_decimal (n : Nat) : (decimal n).length = (Nat.toDigits 10 n).length := by
  rw [← String.length_toList, toList_decimal]

theorem length_decimal_pos (n : Nat) : 0 < (decimal n).length := by
  rw [length_decimal]
  exact List.length_pos_iff.2 Nat.toDigits_ne_nil

theorem length_decimal_mono {m n : Nat} (h : m ≤ n) : (decimal m).length ≤ (decimal n).length := by
  have digits := length_decimal_pos n
  rw [length_decimal] at digits
  have below := (Nat.length_toDigits_le_iff (n := n) (by decide : 1 < 10) digits).1 (Nat.le_refl _)
  rw [length_decimal, length_decimal]
  exact (Nat.length_toDigits_le_iff (by decide) digits).2 (Nat.lt_of_le_of_lt h below)

theorem toList_pushn (s : String) (c : Char) (n : Nat) :
    (s.pushn c n).toList = s.toList ++ List.replicate n c := by
  induction n with
  | zero => exact (List.append_nil _).symm
  | succ n ih =>
    have hpush : (s.pushn c (n + 1)).toList = (s.pushn c n).toList ++ [c] := String.toList_push c
    rw [hpush, ih, List.append_assoc, List.replicate_succ']

theorem toList_paddedDecimal (width n : Nat) : (paddedDecimal width n).toList =
    List.replicate (width - (decimal n).length) '0' ++ Nat.toDigits 10 n := by
  rw [paddedDecimal, String.toList_append, toList_pushn, toList_decimal]
  rfl

theorem isDigit_of_mem_paddedDecimal {width n : Nat} {c : Char}
    (h : c ∈ (paddedDecimal width n).toList) : c.isDigit = true := by
  rw [toList_paddedDecimal, List.mem_append] at h
  obtain h | h := h
  · exact List.eq_of_mem_replicate h ▸ rfl
  · exact Nat.isDigit_of_mem_toDigits (by decide) (by decide) h

theorem digitsValue_eq (cs : List Char) : digitsValue cs = Nat.ofDigitChars 10 cs 0 :=
  Nat.ofDigitChars_eq_foldl.symm

/-- **A number is read back** from its digits, whatever zeros are in front. -/
theorem digits?_paddedDecimal (width n : Nat) : digits? (paddedDecimal width n).toList = some n := by
  have value : digitsValue (paddedDecimal width n).toList = n := by
    rw [digitsValue_eq, toList_paddedDecimal, Nat.ofDigitChars_append, Nat.ofDigitChars_replicate_zero,
      Nat.mul_zero, Nat.ofDigitChars_ten_toDigits]
  have nonempty : (paddedDecimal width n).toList ≠ [] := by
    rw [toList_paddedDecimal]
    exact List.append_ne_nil_of_right_ne_nil _ Nat.toDigits_ne_nil
  have digits : (paddedDecimal width n).toList.all Char.isDigit = true :=
    List.all_eq_true.2 fun _ => isDigit_of_mem_paddedDecimal
  have filled : (paddedDecimal width n).toList.isEmpty = false := by simpa using nonempty
  rw [digits?, filled, digits, value]
  rfl

theorem digits?_eq_some_iff {cs : List Char} {n : Nat} :
    digits? cs = some n ↔ cs ≠ [] ∧ (∀ c ∈ cs, c.isDigit = true) ∧ digitsValue cs = n := by
  unfold digits?
  split <;> simp_all

theorem isDigit_of_digits? {cs : List Char} {n : Nat} (h : digits? cs = some n) :
    ∀ c ∈ cs, c.isDigit = true :=
  (digits?_eq_some_iff.1 h).2.1

/-- Digits begin with a digit. -/
theorem ne_cons_of_digits? {cs rest : List Char} {c : Char} {n : Nat} (h : digits? cs = some n)
    (sign : c.isDigit = false) : cs ≠ c :: rest := by
  rintro rfl
  rw [isDigit_of_digits? h c List.mem_cons_self] at sign
  cases sign

/-- **Numbers up to `m` are equally wide** if they are as wide as `m`. -/
theorem length_paddedDecimal {n m : Nat} (h : n ≤ m) :
    (paddedDecimal (decimal m).length n).toList.length = (decimal m).length := by
  have shorter := length_decimal_mono h
  rw [toList_paddedDecimal, List.length_append, List.length_replicate, ← length_decimal]
  omega

/-! ### Digits side by side and signs -/

theorem decimal_mul_ten_add {n d : Nat} (hn : 0 < n) (hd : d < 10) :
    decimal (n * 10 + d) = decimal n ++ decimal d := by
  rw [← String.toList_inj, String.toList_append, toList_decimal, toList_decimal, toList_decimal,
    Nat.toDigits_append_toDigits (by decide) hn hd, Nat.mul_comm]

theorem signedDecimal_natCast (n : Nat) : signedDecimal n = decimal n := by
  rw [signedDecimal, if_neg (by omega)]
  exact String.empty_append

/-- **A number and one digit side by side** are the number that has both. -/
theorem signedDecimal_mul_ten_add {k d : Int} (hk : 1 ≤ k) (hd : 0 ≤ d) (hd' : d ≤ 9) :
    signedDecimal (k * 10 + d) = signedDecimal k ++ signedDecimal d := by
  lift k to Nat using by omega
  lift d to Nat using hd
  rw [signedDecimal_natCast, signedDecimal_natCast, ← decimal_mul_ten_add (by omega) (by omega),
    ← signedDecimal_natCast]
  congr 1

theorem digits?_decimal (n : Nat) : digits? (decimal n).toList = some n := by
  have plain : paddedDecimal 0 n = decimal n := by
    rw [paddedDecimal, Nat.zero_sub]
    exact String.empty_append
  rw [← plain, digits?_paddedDecimal]

/-- **An integer is read back** from its decimal digits and its sign, if it is in the range. -/
theorem integer?_signedDecimal {low bound k : Int} (hlow : low ≤ k) (hbound : k < bound) :
    integer? low bound (signedDecimal k).toList = some k := by
  have inRange : (low ≤ k && k < bound) = true := by simp [hlow, hbound]
  by_cases negative : k < 0
  · have written : (signedDecimal k).toList = '-' :: (decimal k.natAbs).toList := by
      rw [signedDecimal, if_pos negative, String.toList_append]
      rfl
    have value : -(k.natAbs : Int) = k := by omega
    rw [written]
    simp only [integer?, digits?_decimal]
    exact Option.filter_eq_some_iff.2 ⟨congrArg some value, inRange⟩
  · have written : (signedDecimal k).toList = (decimal k.natAbs).toList := by
      rw [signedDecimal, if_neg negative, String.toList_append]
      rfl
    have value : (k.natAbs : Int) = k := by omega
    have unsigned {c : Char} {rest : List Char} (sign : c.isDigit = false) :
        (decimal k.natAbs).toList ≠ c :: rest := ne_cons_of_digits? (digits?_decimal _) sign
    rw [written]
    unfold integer?
    split
    · exact absurd ‹_› (unsigned (by decide))
    · exact absurd ‹_› (unsigned (by decide))
    · rw [digits?_decimal]
      exact Option.filter_eq_some_iff.2 ⟨congrArg some value, inRange⟩

/-! ### The number one -/

theorem digitValue_inj {c d : Char} (hc : c.isDigit = true) (hd : d.isDigit = true) :
    digitValue c = digitValue d ↔ c = d := by
  have hc := (Char.isDigit_iff_toNat.1 hc).1
  have hd := (Char.isDigit_iff_toNat.1 hd).1
  rw [← Char.toNat_inj, digitValue, digitValue]
  omega

theorem digitsValue_append_singleton (cs : List Char) (c : Char) :
    digitsValue (cs ++ [c]) = 10 * digitsValue cs + digitValue c := by
  rw [digitsValue, List.foldl_append]
  rfl

/-- Zero is written with zeros only. -/
theorem digitsValue_eq_zero_iff {cs : List Char} (digits : ∀ c ∈ cs, c.isDigit = true) :
    digitsValue cs = 0 ↔ ∀ c ∈ cs, c = '0' := by
  induction cs using List.reverseRecOn with
  | nil => exact ⟨fun _ => nofun, fun _ => rfl⟩
  | append_singleton cs c ih =>
    have last : digitValue c = 0 ↔ c = '0' :=
      digitValue_inj (d := '0') (digits c (by simp)) (by decide)
    have front := ih fun d hd => digits d (List.mem_append_left _ hd)
    rw [digitsValue_append_singleton, List.forall_mem_append, ← front, List.forall_mem_singleton,
      ← last]
    omega

/-- One is written as a one behind zeros. -/
theorem digits?_eq_some_one_iff {cs : List Char} :
    digits? cs = some 1 ↔ ∃ zeros, cs = List.replicate zeros '0' ++ ['1'] := by
  rw [digits?_eq_some_iff]
  constructor
  · rintro ⟨nonempty, digits, value⟩
    obtain ⟨front, c, rfl⟩ : ∃ front c, cs = front ++ [c] :=
      ⟨_, _, (List.dropLast_concat_getLast nonempty).symm⟩
    rw [digitsValue_append_singleton] at value
    have hfront : ∀ d ∈ front, d = '0' :=
      (digitsValue_eq_zero_iff fun d hd => digits d (List.mem_append_left _ hd)).1 (by omega)
    obtain rfl : c = '1' := (digitValue_inj (digits c (by simp)) (by decide)).1 (by
      rw [show digitValue '1' = 1 from rfl]
      omega)
    exact ⟨front.length, by rw [← List.eq_replicate_of_mem hfront]⟩
  · rintro ⟨zeros, rfl⟩
    have hzeros : ∀ c ∈ List.replicate zeros '0', c = '0' := fun c => List.eq_of_mem_replicate
    have digits : ∀ c ∈ List.replicate zeros '0', c.isDigit = true := fun c hc =>
      hzeros c hc ▸ rfl
    refine ⟨List.concat_ne_nil _ _,
      List.forall_mem_append.2 ⟨digits, List.forall_mem_singleton.2 rfl⟩, ?_⟩
    rw [digitsValue_append_singleton, (digitsValue_eq_zero_iff digits).2 hzeros]
    rfl

/-- A numeral of the number one: a one behind zeros, perhaps with a plus sign in front of them. -/
def IsOne (cs : List Char) : Prop :=
  ∃ zeros, cs = List.replicate zeros '0' ++ ['1'] ∨ cs = '+' :: (List.replicate zeros '0' ++ ['1'])

/-- **The numerals of the number one.** -/
theorem int64?_eq_some_one_iff {cs : List Char} : int64? cs = some 1 ↔ IsOne cs := by
  have unsigned {c : Char} (rest : List Char) (sign : c.isDigit = false) (zeros : Nat) :
      c :: rest ≠ List.replicate zeros '0' ++ ['1'] :=
    (ne_cons_of_digits? (digits?_eq_some_one_iff.2 ⟨zeros, rfl⟩) sign).symm
  have inRange (k? : Option Int) :
      k?.filter (fun k => -0x8000000000000000 ≤ k && k < 0x8000000000000000) = some 1 ↔
        k? = some 1 := by
    rw [Option.filter_eq_some_iff]
    exact and_iff_left (by decide)
  have natural (n? : Option Nat) : n?.map Int.ofNat = some 1 ↔ n? = some 1 := by
    cases n? with
    | none => simp
    | some n => simp [Int.ofNat_eq_natCast]
  have negative (n? : Option Nat) : n?.map (fun n => -(n : Int)) ≠ some 1 := by
    cases n? with
    | none => simp
    | some n => simp; omega
  rw [IsOne, exists_or]
  unfold int64? integer?
  rw [inRange]
  split
  · rename_i rest
    rw [natural, digits?_eq_some_one_iff]
    simp [unsigned rest (c := '+') (by decide)]
  · rename_i rest
    refine iff_of_false (negative _) ?_
    simp [unsigned rest (c := '-') (by decide)]
  · rename_i plain _
    have positive (zeros : Nat) : cs ≠ '+' :: (List.replicate zeros '0' ++ ['1']) := plain _
    rw [natural, digits?_eq_some_one_iff]
    simp [positive]

end GpuDriver.Text
