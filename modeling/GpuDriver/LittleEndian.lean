import GpuDriver.Text.Utf8

/-!
# Numbers in octets

Numbers are kept in octets with the least octet first. Reading undoes writing as far as the width goes:
what is read back is the number without what did not fit (`ofLittleEndian_littleEndian`).
-/

namespace GpuDriver

/-- The octets of `n` from the least on, `width` of them. -/
def littleEndian : Nat → Nat → Bytes
  | 0, _ => []
  | width + 1, n => UInt8.ofNat (n % 256) :: littleEndian width (n / 256)

/-- The number that octets stand for, the first of them the least. -/
def ofLittleEndian (octets : Bytes) : Nat := octets.foldr (fun b n => b.toNat + 256 * n) 0

@[simp] theorem length_littleEndian (width n : Nat) : (littleEndian width n).length = width := by
  induction width generalizing n with
  | zero => rfl
  | succ width ih => simp [littleEndian, ih]

theorem ofLittleEndian_littleEndian (width n : Nat) :
    ofLittleEndian (littleEndian width n) = n % Nat.pow 256 width := by
  induction width generalizing n with
  | zero => exact (Nat.mod_one n).symm
  | succ width ih =>
    have h : (UInt8.ofNat (n % 256)).toNat = n % 256 := by simp
    have := ih (n / 256)
    simp only [ofLittleEndian, littleEndian, List.foldr_cons] at this ⊢
    have hpow : Nat.pow 256 (width + 1) = 256 * Nat.pow 256 width := Nat.mul_comm ..
    rw [this, h, hpow, Nat.mod_mul]

end GpuDriver
