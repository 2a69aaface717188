import Mathlib.Data.List.DropRight
import Mathlib.Data.List.Induction
import GpuDriver.InProcess.State
import GpuDriver.Proofs.Ptx.Seam

/-!
# Images

The image of a PTX text is the text as octets, with any number of NULs behind it. It is read back as that
text, unless the text is blank or ends with a NUL itself (`imageText?_padded`). What is read from the
octets of any text is the text without the NULs at its end (`imageText?_encode_eq`).
-/

namespace GpuDriver.InProcess

open State

/-- The last octet of a character is a NUL only if the character is. -/
theorem getLast?_utf8EncodeChar {c : Char} (h : c ≠ '\x00') :
    ∃ o : UInt8, o ≠ 0 ∧ (String.utf8EncodeChar c).getLast? = some o := by
  have low : ∀ n : Nat, 0 < n → n < 256 → UInt8.ofNat n ≠ 0 := by
    intro n pos lt heq
    have := congrArg UInt8.toNat heq
    rw [UInt8.toNat_ofNat_of_lt' lt] at this
    exact absurd this (Nat.pos_iff_ne_zero.1 pos)
  have tail : UInt8.ofNat (c.val.toNat % 64 + 128) ≠ 0 := low _ (by omega) (by omega)
  unfold String.utf8EncodeChar
  dsimp only
  split
  · rename_i hv
    refine ⟨_, low _ (Nat.pos_of_ne_zero fun h0 => h ?_) (by omega), rfl⟩
    exact Char.ext (UInt32.toNat_inj.1 h0)
  · split
    · exact ⟨_, tail, rfl⟩
    · split <;> exact ⟨_, tail, rfl⟩

theorem encode_ofList_concat (cs : List Char) (c : Char) :
    Utf8.encode (String.ofList (cs ++ [c])) =
      Utf8.encode (String.ofList cs) ++ String.utf8EncodeChar c := by
  rw [String.ofList_append, Utf8.encode_append]
  simp [Utf8.encode, String.toByteArray_ofList, List.utf8Encode_singleton]

/-- What is left of the octets of a text when NULs are taken off its end: all of them, if the text does
not end with a NUL. -/
theorem dropWhile_padded {text : String} (ending : text.toList.getLast? ≠ some '\x00') (n : Nat) :
    ((Utf8.encode text ++ List.replicate n 0).reverse.dropWhile (· == 0)).reverse =
      Utf8.encode text := by
  have pad : ∀ l : Bytes, (List.replicate n 0 ++ l).dropWhile (· == 0) = l.dropWhile (· == 0) := by
    intro l
    rw [List.dropWhile_append_of_pos]
    simp
  rw [List.reverse_append, List.reverse_replicate, pad]
  obtain hnil | ⟨cs, c, hcs⟩ := List.eq_nil_or_concat text.toList
  · obtain rfl : text = "" := String.toList_injective hnil
    rfl
  · obtain rfl : text = String.ofList (cs ++ [c]) := String.toList_injective (by simp [hcs])
    have hc : c ≠ '\x00' := by simpa [hcs] using ending
    obtain ⟨o, ho, hlast⟩ := getLast?_utf8EncodeChar hc
    obtain ⟨front, hfront⟩ := List.getLast?_eq_some_iff.1 hlast
    rw [encode_ofList_concat, hfront]
    simp [ho]

/-- **The image of a text** is read back as the text. -/
theorem imageText?_padded {text : String} (ending : text.toList.getLast? ≠ some '\x00') (n : Nat) :
    imageText? (Utf8.encode text ++ List.replicate n 0) =
      if Text.isBlankText text then none else some text := by
  rw [imageText?, dropWhile_padded ending, Utf8.decode?_encode]

theorem imageText?_encode {text : String} (ending : text.toList.getLast? ≠ some '\x00') :
    imageText? (Utf8.encode text) = if Text.isBlankText text then none else some text := by
  simpa using imageText?_padded ending 0

/-! ### NULs at the end -/

/-- Octets without the NULs at their end. -/
def withoutNuls (image : Bytes) : Bytes := image.rdropWhile (· == 0)

/-- The text that is read from an image is written as the image without its NULs. -/
theorem encode_of_imageText? {image : Bytes} {text : String} (read : imageText? image = some text) :
    Utf8.encode text = withoutNuls image := by
  unfold imageText? at read
  split at read
  · cases read
  · rename_i found
    split at read
    · cases read
    · obtain rfl := Option.some.inj read
      exact Utf8.encode_of_decode? found

/-- A text without the NULs at its end. -/
def trimNuls (text : String) : String := String.ofList (text.toList.rdropWhile (· == '\x00'))

theorem imageText?_append_nul (image : Bytes) : imageText? (image ++ [0]) = imageText? image := by
  simp [imageText?]

theorem imageText?_encode_eq (text : String) : imageText? (Utf8.encode text) =
    if Text.isBlankText (trimNuls text) then none else some (trimNuls text) := by
  obtain ⟨cs, rfl⟩ : ∃ cs, text = String.ofList cs := ⟨text.toList, String.ofList_toList.symm⟩
  induction cs using List.reverseRecOn with
  | nil => exact imageText?_encode (by simp)
  | append_singleton cs c ih =>
    rcases Decidable.em (c = '\x00') with rfl | other
    · have dropped : trimNuls (String.ofList (cs ++ ['\x00'])) = trimNuls (String.ofList cs) := by
        simp [trimNuls]
      rw [encode_ofList_concat, dropped, ← ih]
      exact imageText?_append_nul _
    · have kept : trimNuls (String.ofList (cs ++ [c])) = String.ofList (cs ++ [c]) := by
        simp [trimNuls, List.rdropWhile_concat_neg, other]
      rw [kept, imageText?_encode (by simpa using other)]

theorem eq_trimNuls_of_imageText? {ptx text : String}
    (read : imageText? (Utf8.encode ptx) = some text) : text = trimNuls ptx := by
  rw [imageText?_encode_eq] at read
  split at read
  · cases read
  · exact (Option.some.inj read).symm

/-! ### Images of modules -/

theorem isBlankText_of_isModule {text : String} (valid : Ptx.isModule text = true) :
    Text.isBlankText text = false := by
  rw [← Bool.not_eq_true]
  intro blank
  have hblank : ∀ c ∈ text.toList, Text.isBlank c = true := by
    simpa [Text.isBlankText] using blank
  have plain : '/' ∉ text.toList := fun h => absurd (hblank _ h) (by decide)
  rw [Ptx.isModule_eq, Ptx.bodyOf_eq_self plain, Text.words_eq_nil hblank] at valid
  simp at valid

theorem imageText?_padded_of_isModule {text : String} (valid : Ptx.isModule text = true)
    (ending : text.toList.getLast? ≠ some '\x00') (n : Nat) :
    imageText? (Utf8.encode text ++ List.replicate n 0) = some text := by
  rw [imageText?_padded ending, isBlankText_of_isModule valid]
  rfl

theorem imageText?_encode_of_isModule {text : String} (valid : Ptx.isModule text = true)
    (ending : text.toList.getLast? = some '\n') : imageText? (Utf8.encode text) = some text := by
  simpa using imageText?_padded_of_isModule valid (by rw [ending]; decide) 0

theorem imageText?_encode_of_trimNuls {ptx : String} (valid : Ptx.isModule (trimNuls ptx) = true) :
    imageText? (Utf8.encode ptx) = some (trimNuls ptx) := by
  rw [imageText?_encode_eq, isBlankText_of_isModule valid]
  rfl

end GpuDriver.InProcess
