import Mathlib.Algebra.Group.Nat.Defs
import Mathlib.Data.List.Basic
import GpuDriver.Text.Utf8

/-!
# Octets of a text

A character of ASCII is written as one octet, and no other character has such an octet. So an octet of
ASCII is in a text, or first in it, exactly if its character is; and lenient reading makes a character of
ASCII of nothing but its octet.
-/

namespace GpuDriver.Utf8

/-- The octet of a character of ASCII. -/
def octet (x : Char) : UInt8 := UInt8.ofNat x.toNat

/-! ### One character -/

theorem utf8EncodeChar_of_ascii {c : Char} (h : c.toNat < 0x80) :
    String.utf8EncodeChar c = [octet c] := by
  have low : c.val.toNat ≤ 0x7f := Nat.le_of_lt_succ h
  unfold String.utf8EncodeChar
  dsimp only
  rw [if_pos low]
  rfl

/-- The octets of a character outside of ASCII are outside of it. -/
theorem le_of_mem_utf8EncodeChar {c : Char} (h : 0x80 ≤ c.toNat) :
    ∀ o ∈ String.utf8EncodeChar c, 0x80 ≤ o.toNat := by
  have high : ¬ c.val.toNat ≤ 0x7f := Nat.not_le.2 (Nat.lt_of_lt_of_le (by decide) h)
  have octet : ∀ n : Nat, 0x80 ≤ n → n < 0x100 → 0x80 ≤ (UInt8.ofNat n).toNat := by
    intro n low lt
    rwa [UInt8.toNat_ofNat_of_lt' lt]
  unfold String.utf8EncodeChar
  dsimp only
  rw [if_neg high]
  split
  · simp only [List.forall_mem_cons, List.not_mem_nil, false_imp_iff, implies_true, and_true]
    exact ⟨octet _ (by omega) (by omega), octet _ (by omega) (by omega)⟩
  · split
    · simp only [List.forall_mem_cons, List.not_mem_nil, false_imp_iff, implies_true, and_true]
      exact ⟨octet _ (by omega) (by omega), octet _ (by omega) (by omega), octet _ (by omega) (by omega)⟩
    · simp only [List.forall_mem_cons, List.not_mem_nil, false_imp_iff, implies_true, and_true]
      exact ⟨octet _ (by omega) (by omega), octet _ (by omega) (by omega), octet _ (by omega) (by omega),
        octet _ (by omega) (by omega)⟩

theorem toNat_octet {x : Char} (hx : x.toNat < 0x80) : (octet x).toNat = x.toNat :=
  UInt8.toNat_ofNat_of_lt' (Nat.lt_trans hx (by decide))

/-- A character has the octet of a character of ASCII only if it is that. -/
theorem octet_mem_utf8EncodeChar_iff {x c : Char} (hx : x.toNat < 0x80) :
    octet x ∈ String.utf8EncodeChar c ↔ x = c := by
  obtain low | high := Nat.lt_or_ge c.toNat 0x80
  · rw [utf8EncodeChar_of_ascii low, List.mem_singleton]
    constructor
    · intro same
      have same := congrArg UInt8.toNat same
      rw [toNat_octet hx, toNat_octet low] at same
      exact Char.toNat_inj.1 same
    · exact congrArg octet
  · constructor
    · intro hm
      have above := le_of_mem_utf8EncodeChar high _ hm
      rw [toNat_octet hx] at above
      exact absurd hx (Nat.not_lt.2 above)
    · rintro rfl
      exact absurd hx (Nat.not_lt.2 high)

/-! ### Texts -/

theorem encode_ofList_cons (c : Char) (cs : List Char) :
    encode (String.ofList (c :: cs)) = String.utf8EncodeChar c ++ encode (String.ofList cs) := by
  have hlist : String.ofList ([c] ++ cs) = String.ofList [c] ++ String.ofList cs := String.ofList_append
  rw [List.singleton_append] at hlist
  rw [hlist, encode_append]
  simp [encode, String.toByteArray_ofList, List.utf8Encode_singleton]

/-- **An octet of ASCII is in a text** exactly if its character is. -/
theorem octet_mem_encode_iff {x : Char} (hx : x.toNat < 0x80) {s : String} :
    octet x ∈ encode s ↔ x ∈ s.toList := by
  obtain ⟨cs, rfl⟩ : ∃ cs, s = String.ofList cs := ⟨s.toList, String.ofList_toList.symm⟩
  rw [String.toList_ofList]
  induction cs with
  | nil => simp [encode]
  | cons c cs ih =>
    rw [encode_ofList_cons, List.mem_append, octet_mem_utf8EncodeChar_iff hx, ih, List.mem_cons]

/-- An octet of ASCII is the first of a text exactly if its character is. -/
theorem head?_encode_eq_iff {x : Char} (hx : x.toNat < 0x80) {s : String} :
    (encode s).head? = some (octet x) ↔ s.toList.head? = some x := by
  obtain ⟨cs, rfl⟩ : ∃ cs, s = String.ofList cs := ⟨s.toList, String.ofList_toList.symm⟩
  rw [String.toList_ofList]
  cases cs with
  | nil => simp [encode]
  | cons c cs =>
    rw [encode_ofList_cons, List.head?_cons, Option.some.injEq]
    obtain low | high := Nat.lt_or_ge c.toNat 0x80
    · rw [utf8EncodeChar_of_ascii low, List.singleton_append, List.head?_cons, Option.some.injEq]
      have h := octet_mem_utf8EncodeChar_iff (c := c) hx
      rw [utf8EncodeChar_of_ascii low, List.mem_singleton] at h
      rw [eq_comm, h, eq_comm]
    · have hne : x ≠ c := fun heq => absurd hx (Nat.not_lt.2 (heq ▸ high))
      have hnot := (octet_mem_utf8EncodeChar_iff (c := c) hx).not.2 hne
      obtain ⟨o, rest, ho⟩ := List.exists_cons_of_ne_nil (String.utf8EncodeChar_ne_nil (c := c))
      rw [ho] at hnot ⊢
      rw [List.cons_append, List.head?_cons, Option.some.injEq]
      exact ⟨fun heq => absurd (heq ▸ List.mem_cons_self) hnot, fun heq => absurd heq.symm hne⟩

/-! ### Lenient reading -/

section Continuation

variable {value n r : Nat} {low high : UInt8} {b rest : Bytes}

/-- Each octet that follows adds six bits. -/
theorem le_continuation (h : continuation value low high n b = (some r, rest)) :
    value * 64 ^ n ≤ r := by
  induction n generalizing value low high b with
  | zero =>
    obtain ⟨rfl, -⟩ : value = r ∧ b = rest := by simpa [continuation] using h
    omega
  | succ n ih =>
    cases b with
    | nil => simp [continuation] at h
    | cons o b =>
      rw [continuation] at h
      split at h
      · rw [Nat.pow_succ, Nat.mul_comm (64 ^ n), ← Nat.mul_assoc]
        exact Nat.le_trans (Nat.mul_le_mul_right _ (Nat.le_add_right _ _)) (ih h)
      · simp at h

theorem continuation_lt (hhigh : high.toNat ≤ 0xBF)
    (h : continuation value low high n b = (some r, rest)) : r < (value + 1) * 64 ^ n := by
  induction n generalizing value low high b with
  | zero =>
    obtain ⟨rfl, -⟩ : value = r ∧ b = rest := by simpa [continuation] using h
    omega
  | succ n ih =>
    cases b with
    | nil => simp [continuation] at h
    | cons o b =>
      rw [continuation] at h
      split at h
      · rename_i between
        have above := UInt8.le_iff_toNat_le.1 between.2
        refine Nat.lt_of_lt_of_le (ih (by decide) h) ?_
        rw [Nat.pow_succ, Nat.mul_comm (64 ^ n), ← Nat.mul_assoc]
        exact Nat.mul_le_mul_right _ (by omega)
      · simp at h

/-- The first octet that follows sets the bounds of the value. -/
theorem continuation_bounds (h : continuation value low high (n + 1) b = (some r, rest)) :
    (value * 64 + (low.toNat - 0x80)) * 64 ^ n ≤ r ∧
      r < (value * 64 + (high.toNat - 0x80) + 1) * 64 ^ n := by
  cases b with
  | nil => simp [continuation] at h
  | cons o b =>
    rw [continuation] at h
    split at h
    · rename_i between
      have below := UInt8.le_iff_toNat_le.1 between.1
      have above := UInt8.le_iff_toNat_le.1 between.2
      constructor
      · exact Nat.le_trans (Nat.mul_le_mul_right _ (by omega)) (le_continuation h)
      · exact Nat.lt_of_lt_of_le (continuation_lt (by decide) h) (Nat.mul_le_mul_right _ (by omega))
    · simp at h

/-- What an octet announces is itself, or a scalar value outside of ASCII. -/
theorem continuation_of_lead {o : UInt8} {l : Lead} (announced : lead? o = some l)
    (read : continuation l.bits l.low l.high l.following b = (some r, rest)) :
    (r = o.toNat ∧ o < 0x80) ∨ (0x80 ≤ r ∧ r.isValidChar) := by
  unfold lead? at announced
  simp only [UInt8.lt_iff_toNat_lt, UInt8.ext_iff] at announced
  (repeat' split at announced) <;>
    (first | (obtain rfl := Option.some.inj announced) | cases announced)
  -- an octet of ASCII; all others are followed by one octet at least
  · rename_i ascii
    exact Or.inl ⟨(Option.some.inj (Prod.mk.inj read).1).symm, UInt8.lt_iff_toNat_lt.2 ascii⟩
  all_goals
    obtain ⟨below, above⟩ := continuation_bounds read
    right
    simp only [Nat.isValidChar]
    simp at *
    omega

end Continuation

/-- What is left behind a scalar value stands at the end. -/
theorem suffix_continuation (value : Nat) (low high : UInt8) (n : Nat) (b : Bytes) :
    (continuation value low high n b).2 <:+ b := by
  fun_induction continuation value low high n b with
  | case1 _ _ _ b => exact List.suffix_refl b
  | case2 => exact List.suffix_refl _
  | case3 value low high n o b between ih => exact List.IsSuffix.trans ih (List.suffix_cons o b)
  | case4 => exact List.suffix_refl _

theorem toNat_ofNat_of_isValidChar {r : Nat} (valid : r.isValidChar) : (Char.ofNat r).toNat = r := by
  rw [Char.ofNat, dif_pos valid]
  rfl

theorem octet_mem_of_mem_repair {x : Char} (hx : x.toNat < 0x80) {b : Bytes} (h : x ∈ repair b) :
    octet x ∈ b := by
  have replaced : x ≠ '\uFFFD' := by
    rintro rfl
    exact absurd hx (by decide)
  fun_induction repair b with
  | case1 => cases h
  | case2 o rest hlead ih => exact List.mem_cons_of_mem _ (ih ((List.mem_cons.1 h).resolve_left replaced))
  | case3 o rest l hlead ih =>
    obtain first | h := List.mem_cons.1 h
    · cases hread : continuation l.bits l.low l.high l.following rest with
      | mk answer left =>
        rw [hread] at first
        cases answer with
        | none => exact absurd first replaced
        | some r =>
          obtain ⟨rfl, ascii⟩ | ⟨high, valid⟩ := continuation_of_lead hlead hread
          · have ascii := UInt8.lt_iff_toNat_lt.1 ascii
            have valid : o.toNat.isValidChar := Or.inl (Nat.lt_trans ascii (by decide))
            have same : x.toNat = o.toNat := first ▸ toNat_ofNat_of_isValidChar valid
            have same : octet x = o := UInt8.toNat_inj.1 ((toNat_octet hx).trans same)
            exact same ▸ List.mem_cons_self
          · have same : x.toNat = r := first ▸ toNat_ofNat_of_isValidChar valid
            omega
    · exact List.mem_cons_of_mem _ ((suffix_continuation ..).subset (ih h))

/-- **A character of ASCII is read** from its octet only. -/
theorem octet_mem_of_mem_decodeLossy {x : Char} (hx : x.toNat < 0x80) {b : Bytes}
    (h : x ∈ (decodeLossy b).toList) : octet x ∈ b := by
  rw [decodeLossy] at h
  cases hread : decode? b with
  | none =>
    rw [hread, Option.getD_none, String.toList_ofList] at h
    exact octet_mem_of_mem_repair hx h
  | some s =>
    rw [hread, Option.getD_some] at h
    exact decode?_eq_some_iff.1 hread ▸ (octet_mem_encode_iff hx).2 h

end GpuDriver.Utf8
