import Mathlib.Data.List.Induction
import GpuDriver.Configuration
import GpuDriver.Proofs.Text.Numeral

/-!
# Flags and the changes before them

A variable that is a flag says yes if it is a numeral of the number one, and nothing if it is not there,
empty or not text; then a default counts (`Environment.bool_eq_true_iff`). A variable is what the latest
change that sets or removes it made of it, and the stored flag is that of the settings that were stored
last, or what the variable said when they were read from the environment. Whether failed sources are
dumped is told by the variable as it is now, and by the stored flag if that says nothing
(`Settings.dumpsSource_foldl_configure_iff`).
-/

namespace GpuDriver

/-! ### Flags -/

/-- What is said is yes: the octets are a text that is a numeral of the number one between blanks. -/
def SaysYes (value? : Option Bytes) : Prop :=
  ∃ text, value? = some (Utf8.encode text) ∧ Text.IsOne (Text.trim text.toList)

/-- Nothing is said: there is no value, or it is empty, or it is not text. -/
def SaysNothing (value? : Option Bytes) : Prop :=
  value? = none ∨ value? = some [] ∨
    ∃ octets, value? = some octets ∧ ∀ text, octets ≠ Utf8.encode text

namespace Environment

/-- **A flag** is true for the numerals of the number one. -/
theorem flag_eq_true_iff {value : String} :
    flag value = true ↔ Text.IsOne (Text.trim value.toList) := by
  rw [flag, beq_iff_eq, Text.int64?_eq_some_one_iff]

theorem saysYes_encode {text : String} :
    SaysYes (some (Utf8.encode text)) ↔ Text.IsOne (Text.trim text.toList) := by
  constructor
  · rintro ⟨text', same, one⟩
    exact Utf8.encode_injective (Option.some.inj same) ▸ one
  · exact fun one => ⟨text, rfl, one⟩

theorem saysNothing_encode {text : String} : SaysNothing (some (Utf8.encode text)) ↔ text = "" := by
  constructor
  · rintro (none | empty | ⟨octets, same, garbled⟩)
    · cases none
    · exact Utf8.encode_injective (Option.some.inj empty)
    · exact absurd (Option.some.inj same).symm (garbled text)
  · rintro rfl
    exact Or.inr (Or.inl rfl)

/-- **A flag variable** is true if it says yes, or says nothing and the default is true. -/
theorem bool_eq_true_iff {env : Environment} {name : String} {default : Bool} :
    env.bool name default = true ↔
      SaysYes (env.get? name) ∨ SaysNothing (env.get? name) ∧ default = true := by
  rw [bool]
  cases value : env.get? name with
  | none => simp [SaysYes, SaysNothing]
  | some octets =>
    rw [Option.bind_some]
    cases decoded : Utf8.decode? octets with
    | none =>
      have garbled : ∀ text, octets ≠ Utf8.encode text := fun text same => by
        rw [Utf8.decode?_eq_some_iff.2 same] at decoded
        cases decoded
      have nothing : SaysNothing (some octets) := Or.inr (Or.inr ⟨octets, rfl, garbled⟩)
      have no : ¬ SaysYes (some octets) := fun ⟨text, same, _⟩ =>
        garbled text (Option.some.inj same)
      simp [nothing, no]
    | some text =>
      obtain rfl := Utf8.encode_of_decode? decoded
      rw [saysYes_encode, saysNothing_encode]
      by_cases empty : text = ""
      · subst empty
        have no : ¬ Text.IsOne (Text.trim []) := by
          rintro ⟨zeros, one | one⟩
          · exact absurd one.symm (List.concat_ne_nil _ _)
          · cases one
        simp [no]
      · have full : text.isEmpty = false := by simpa using empty
        simp [full, empty, flag_eq_true_iff]

/-- What a variable is after it was set or removed, or another one was. -/
theorem get?_assign (env : Environment) (name other : String) (value? : Option Bytes) :
    (env.assign other value?).get? name = if name = other then value? else env.get? name := by
  cases value? with
  | none => exact Table.get?_erase ..
  | some value => exact Table.get?_insert ..

end Environment

/-! ### Changes -/

namespace Settings

variable {σ : Type}

/-- What a variable is after changes, of which the latest comes first. -/
def latestValue (start : Option Bytes) (name : String) : List Change → Option Bytes
  | [] => start
  | .assign other value? :: earlier =>
    if name = other then value? else latestValue start name earlier
  | _ :: earlier => latestValue start name earlier

/-- The flag that was stored last asks for dumps, after changes of which the latest comes first. -/
def StoresDump (w : World σ) : List Change → Prop
  | [] => w.settings.dumpSource = true
  | .assign _ _ :: earlier => StoresDump w earlier
  | .store settings :: _ => settings.dumpSource = true
  | .reload :: earlier => SaysYes (latestValue (w.environment.get? dumpVariable) dumpVariable earlier)

/-- Failed sources are to be dumped after changes, of which the latest comes first: the variable says
so, or it says nothing and the flag that was stored last asks for it. -/
def AsksForDump (w : World σ) (changes : List Change) : Prop :=
  let value? := latestValue (w.environment.get? dumpVariable) dumpVariable changes
  SaysYes value? ∨ SaysNothing value? ∧ StoresDump w changes

variable {w : World σ}

/-- **A variable after changes** is what the latest of them made of it. -/
theorem get?_foldl_configure (changes : List Change) (name : String) :
    (changes.foldl World.configure w).environment.get? name =
      latestValue (w.environment.get? name) name changes.reverse := by
  induction changes using List.reverseRecOn with
  | nil => rfl
  | append_singleton earlier change ih =>
    rw [List.foldl_append, List.foldl_cons, List.foldl_nil, List.reverse_concat]
    cases change with
    | assign other value? => rw [World.configure, Environment.get?_assign, ih, latestValue]
    | store | reload => exact ih

/-- **The stored flag after changes** is the one that was stored last. -/
theorem dumpSource_foldl_configure_iff (changes : List Change) :
    (changes.foldl World.configure w).settings.dumpSource = true ↔ StoresDump w changes.reverse := by
  induction changes using List.reverseRecOn with
  | nil => rfl
  | append_singleton earlier change ih =>
    rw [List.foldl_append, List.foldl_cons, List.foldl_nil, List.reverse_concat]
    cases change with
    | assign => exact ih
    | store settings => rfl
    | reload =>
      rw [StoresDump, ← get?_foldl_configure]
      exact Environment.bool_eq_true_iff.trans (by simp)

/-- **Whether failed sources are dumped after changes.** -/
theorem dumpsSource_foldl_configure_iff (changes : List Change) :
    let w' := changes.foldl World.configure w
    w'.settings.dumpsSource w'.environment = true ↔ AsksForDump w changes.reverse := by
  intro w'
  rw [dumpsSource, Environment.bool_eq_true_iff, get?_foldl_configure, dumpSource_foldl_configure_iff]
  rfl

end Settings

end GpuDriver
