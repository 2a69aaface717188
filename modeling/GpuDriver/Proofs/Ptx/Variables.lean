import GpuDriver.Proofs.Ptx.Declarations

/-!
# Reading variables

The text of a variable declares the variable and nothing else (`Variable.reads`). It is a declaration with
perhaps an initial value, and its size fits, so that the size that is read is its size
(`Variable.readBytes_declaration`).
-/

namespace GpuDriver.Ptx

open Text

/-- What is said of a variable without its initial value. -/
def Variable.declaration (v : Variable) : Declaration where
  visible := v.visible
  space := v.space
  align := v.align
  kind := v.kind
  width := v.width
  name := v.name
  extents := v.extents

/-- **The size of a variable** is what its element and its extents say: an extent that does not fit a word
stands beside one that is zero. -/
theorem Variable.readBytes_declaration (v : Variable) : v.declaration.readBytes = v.bytes := by
  have fits : v.bytes < wordBound := v.fits
  have measured : v.declaration.Measured := by
    by_cases hzero : ∃ n ∈ v.extents, n.value = 0
    · exact Or.inr hzero
    · have hpos : 0 < (v.extents.map Numeral.value).prod :=
        List.prod_pos_iff_forall_pos_nat.2 fun k hk => by
          obtain ⟨n, hn, rfl⟩ := List.mem_map.1 hk
          exact Nat.pos_of_ne_zero fun none => hzero ⟨n, hn, none⟩
      have hle : (v.extents.map Numeral.value).prod ≤ v.bytes :=
        Nat.le_mul_of_pos_left _ v.width.bytes_pos
      refine Or.inl fun n hn => ?_
      have hn : n.value ≤ (v.extents.map Numeral.value).prod :=
        Nat.le_of_dvd hpos (List.dvd_prod (List.mem_map_of_mem hn))
      exact Nat.lt_of_le_of_lt (Nat.le_trans hn hle) fits
  rw [Declaration.readBytes_eq, if_pos measured]
  exact Nat.min_eq_left (Nat.le_sub_one_of_lt fits)

/-! ### Texts of variables -/

theorem Variable.head?_valueChars (v : Variable) : ∀ c ∈ v.valueChars.head?, c = '=' := by
  unfold Variable.valueChars
  cases v.value with
  | none => exact fun _ hc => absurd hc (Option.not_mem_none _)
  | some value => exact fun _ hc => (Option.some.inj hc).symm

theorem Variable.not_mem_valueChars (v : Variable) : ';' ∉ v.valueChars := by
  unfold Variable.valueChars
  cases v.value with
  | none => exact List.not_mem_nil
  | some value =>
    refine List.not_mem_cons_of_ne_of_not_mem (by decide) fun hm => ?_
    exact absurd (value.valid _ hm) (by decide)

section Variable

variable {v : Variable} {front gap : List Char} (hf : Row v.front front) (hg : IsGap gap)

include hf hg

theorem Variable.plain_front_declarator : Plain (front ++ v.declarator ++ gap) :=
  Declaration.plain_front_declarator (d := v.declaration) hf hg

theorem Variable.words_front_declarator :
    words (front ++ v.declarator ++ gap) = v.front ++ [v.declarator] :=
  Declaration.words_front_declarator (d := v.declaration) hf hg

/-- **What a variable declares** is the variable with its size. -/
theorem Variable.globalsIn_eq :
    globalsIn (front ++ v.declarator ++ gap ++ v.valueChars) =
      [⟨String.ofList v.name.chars, v.bytes⟩] := by
  have read := clear_nil.globalsIn_append (d := v.declaration) hf hg v.head?_valueChars
  rw [v.readBytes_declaration] at read
  exact read

/-- The initial value of a variable begins no kernel. -/
theorem Variable.not_mem_words :
    ".entry".toList ∉ words (front ++ v.declarator ++ gap ++ v.valueChars) := by
  have hfront : ".entry".toList ∉ words (front ++ v.declarator ++ gap) := by
    rw [v.words_front_declarator hf hg]
    refine List.not_mem_append (fun hm => (v.declaration.ne_of_mem_front _ hm).1 rfl) fun hm => ?_
    exact ne_entry_of_head? v.declaration.head?_declarator (List.mem_singleton.1 hm).symm
  unfold Variable.valueChars
  cases v.value with
  | none => rwa [List.append_nil]
  | some value =>
    intro hm
    obtain ⟨hm, -⟩ | hm := mem_words_append_cons (by decide) (by decide) hm
    · exact hfront hm
    · have hletter : 'e' ∈ value.chars := mem_of_mem_words hm (by decide)
      exact absurd (value.valid _ hletter) (by decide)

theorem Variable.balanced : Text.balanced (front ++ v.declarator ++ gap ++ v.valueChars) = true := by
  rw [balanced_append (v.plain_front_declarator hf hg).balanced]
  unfold Variable.valueChars
  cases v.value with
  | none => decide
  | some value => exact value.balanced

/-- **A variable** defines itself, with its size. -/
theorem Variable.reads : Reads (front ++ v.declarator ++ gap ++ v.valueChars ++ [';'])
    (Item.var v).symbols := by
  have plain := v.plain_front_declarator hf hg
  have hsemi : ';' ∉ front ++ v.declarator ++ gap ++ v.valueChars :=
    List.not_mem_append (plain.not_mem (by decide)) v.not_mem_valueChars
  have h := reads_declaration hsemi (v.not_mem_words hf hg) (v.balanced hf hg)
  rw [v.globalsIn_eq hf hg] at h
  exact h

end Variable

end GpuDriver.Ptx
