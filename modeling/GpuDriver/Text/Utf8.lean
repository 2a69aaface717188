/-!
# Octets and text

File contents, paths, images and the names handed to a native library are octets; messages, kernel
names and sources are text. The two are tied by UTF-8. `encode` writes a text, `decode?` reads octets
and refuses what no text is written as, and `decodeLossy` reads any octets, with U+FFFD where they are
malformed. Reading undoes writing (`decode?_encode`) and accepts nothing else (`encode_of_decode?`).
-/

namespace GpuDriver

/-- A sequence of octets. -/
abbrev Bytes := List UInt8

/-- A path of the file system: octets, with `/` between its components. -/
abbrev Path := Bytes

namespace Utf8

/-! ### Writing and strict reading -/

/-- The octets of a text. -/
def encode (s : String) : Bytes := s.toUTF8.data.toList

/-- The text that `b` is the writing of, if there is one. -/
def decode? (b : Bytes) : Option String := String.fromUTF8? b.toByteArray

theorem toByteArray_encode (s : String) : (encode s).toByteArray = s.toUTF8 := by
  apply ByteArray.ext
  simp [encode]

theorem decode?_encode (s : String) : decode? (encode s) = some s := by
  unfold decode? String.fromUTF8?
  rw [toByteArray_encode, String.toUTF8_eq_toByteArray, dif_pos s.isValidUTF8]
  rfl

theorem encode_of_decode? {b : Bytes} {s : String} (h : decode? b = some s) : encode s = b := by
  unfold decode? String.fromUTF8? at h
  split at h
  · cases h
    simp [encode, String.fromUTF8]
  · cases h

/-- A text is written in one way and read back from no other octets. -/
theorem decode?_eq_some_iff {b : Bytes} {s : String} : decode? b = some s ↔ b = encode s :=
  ⟨fun h => (encode_of_decode? h).symm, fun h => h ▸ decode?_encode s⟩

/-- No two texts are written alike. -/
theorem encode_injective {s t : String} (h : encode s = encode t) : s = t := by
  have read := congrArg decode? h
  rw [decode?_encode, decode?_encode] at read
  exact Option.some.inj read

/-! ### Lenient reading -/

/-- What the first octet of a scalar value announces. -/
structure Lead where
  /-- How many octets follow. -/
  following : Nat
  /-- The bits of the value that the first octet holds. -/
  bits : Nat
  /-- The least second octet. -/
  low : UInt8 := 0x80
  /-- The greatest second octet. -/
  high : UInt8 := 0xBF

/-- What the octet `b` announces; nothing if no scalar value begins with it. -/
def lead? (b : UInt8) : Option Lead :=
  if b < 0x80 then some ⟨0, b.toNat, 0x80, 0xBF⟩
  else if b < 0xC2 then none
  else if b < 0xE0 then some ⟨1, b.toNat - 0xC0, 0x80, 0xBF⟩
  else if b = 0xE0 then some ⟨2, 0, 0xA0, 0xBF⟩
  else if b = 0xED then some ⟨2, 0xD, 0x80, 0x9F⟩
  else if b < 0xF0 then some ⟨2, b.toNat - 0xE0, 0x80, 0xBF⟩
  else if b = 0xF0 then some ⟨3, 0, 0x90, 0xBF⟩
  else if b < 0xF4 then some ⟨3, b.toNat - 0xF0, 0x80, 0xBF⟩
  else if b = 0xF4 then some ⟨3, 4, 0x80, 0x8F⟩
  else none

/-- Reads up to `n` further octets into `value`, the first of them between `low` and `high`; gives
the value if all were there, and what is left. -/
def continuation (value : Nat) (low high : UInt8) : Nat → Bytes → Option Nat × Bytes
  | 0, rest => (some value, rest)
  | _ + 1, [] => (none, [])
  | n + 1, b :: rest =>
    if low ≤ b ∧ b ≤ high then continuation (value * 64 + (b.toNat - 0x80)) 0x80 0xBF n rest
    else (none, b :: rest)

theorem length_continuation_le (value : Nat) (low high : UInt8) (n : Nat) (rest : Bytes) :
    (continuation value low high n rest).2.length ≤ rest.length := by
  fun_induction continuation value low high n rest <;> grind

/-- The characters of `b`, with U+FFFD for each longest run of octets that begins a scalar value
without completing it, and for each octet that begins none. -/
def repair : Bytes → List Char
  | [] => []
  | b :: rest =>
    match lead? b with
    | none => '\uFFFD' :: repair rest
    | some l =>
      ((continuation l.bits l.low l.high l.following rest).1.elim '\uFFFD' Char.ofNat) ::
        repair (continuation l.bits l.low l.high l.following rest).2
termination_by b => b.length
decreasing_by
  · simp
  · exact Nat.lt_succ_of_le (length_continuation_le ..)

/-- The text of any octets, with U+FFFD where they are malformed. -/
def decodeLossy (b : Bytes) : String := (decode? b).getD (String.ofList (repair b))

@[simp] theorem decodeLossy_encode (s : String) : decodeLossy (encode s) = s := by
  simp [decodeLossy, decode?_encode]

theorem encode_append (s t : String) : encode (s ++ t) = encode s ++ encode t := by
  simp [encode]

/-! ### Octets as hexadecimal digits -/

/-- The lower-case hexadecimal digit of `n < 16`. -/
def hexDigit (n : Nat) : Char := Nat.digitChar n

/-- Two lower-case hexadecimal digits an octet. -/
def hex (b : Bytes) : String :=
  String.ofList (b.flatMap fun o => [hexDigit (o.toNat / 16), hexDigit (o.toNat % 16)])

end Utf8

end GpuDriver
