import GpuDriver.Proofs.InProcess.Allocation
import GpuDriver.Proofs.InProcess.ModuleSymbols
import GpuDriver.Proofs.Ptx.Declarations

/-!
# Loading what is declared

A declaration stands somewhere in a text, and the text is loaded at some point of a run. The variable gets
the octets that are declared, or the load runs out of memory, as long as each extent fits a word or one of
them is zero; else the variable is loaded as one of no octets (`declared_variable_loaded`).
-/

namespace GpuDriver.InProcess

open State

variable {s : State} {e : Event} {image : Bytes} {text : String}

/-! ### Sizes -/

/-- What is cut down to the greatest size fits nowhere. -/
theorem wordBound_le_reserved_min {place bytes : Nat}
    (full : Text.wordBound ≤ place + reserved bytes) :
    Text.wordBound ≤ place + reserved (min bytes Ptx.maxSize) := by
  obtain small | large := Nat.le_total bytes Ptx.maxSize
  · rwa [Nat.min_eq_left small]
  · have greatest : Text.wordBound ≤ reserved Ptx.maxSize := by decide
    rw [Nat.min_eq_right large]
    exact Nat.le_trans greatest (Nat.le_add_left _ _)

/-- What fits was not cut down. -/
theorem min_maxSize_of_fits {place bytes : Nat}
    (fits : place + reserved (min bytes Ptx.maxSize) < Text.wordBound) :
    min bytes Ptx.maxSize = bytes := by
  refine Nat.min_eq_left (Nat.le_of_not_le fun large => ?_)
  have greatest : Text.wordBound ≤ reserved Ptx.maxSize := by decide
  rw [Nat.min_eq_right large] at fits
  exact absurd fits (Nat.not_lt.2 (Nat.le_trans greatest (Nat.le_add_left _ _)))

theorem reservedFor_append (globals globals' : List Ptx.Global) :
    reservedFor (globals ++ globals') = reservedFor globals + reservedFor globals' := by
  rw [reservedFor, List.map_append, List.sum_append]
  rfl

/-! ### Loads of a text -/

theorem loads_of_image? (given : e.image? = some image) : e.call.loads = true := by
  cases load : e.call.loads with
  | true => rfl
  | false =>
    rw [image?_eq_none_of_not_loads load] at given
    cases given

theorem requested_of_image? {c : Handle} (given : e.image? = some image)
    (read : imageText? image = some text) (current : s.current e.thread = .ok c)
    (valid : Ptx.isModule text = true) : s.requested e = (Ptx.symbols text).globals := by
  simp only [State.requested, given, State.wanted, current, read, valid, if_true]

/-- The text that an image holds is the text that its load loads. -/
theorem text?_of_image? (given : e.image? = some image) (read : imageText? image = some text) :
    e.text? = some text := by
  obtain ⟨t, files, call⟩ := e
  cases call with
  | loadModuleData other =>
    obtain rfl : other = image := Option.some.inj given
    exact read
  | loadModule path =>
    obtain ⟨_, -, found⟩ := Option.bind_eq_some_iff.1 given
    exact (congrArg (Option.bind · imageText?) found).trans read
  | _ => cases given

/-- The last variable of a name that a load places is found behind all that are declared before it. -/
theorem global_of_loaded? {m : Handle} {before after : List Ptx.Global} {g : Ptx.Global}
    (loaded : s.loaded? e = some m) (read : e.text? = some text)
    (split : (Ptx.symbols text).globals = before ++ g :: after)
    (last : ∀ g' ∈ after, g'.name ≠ g.name) :
    (s.after e).global m (Utf8.encode g.name) =
      .ok ⟨s.nextAddress + reservedFor before, g.bytes⟩ := by
  obtain ⟨text', module, current, read', there, -, places⟩ := module_of_loaded? loaded
  obtain rfl : text = text' := Option.some.inj (read.symm.trans read')
  have up : (s.after e).initialized = true :=
    (change_after s e).initialized (current_eq_ok_iff.1 current).1
  have placed : LastAt s.nextAddress (Ptx.symbols text).globals g.name
      ⟨s.nextAddress + reservedFor before, g.bytes⟩ :=
    ⟨before, g, after, split, rfl, last, rfl⟩
  rw [global_encode up, there, Option.elim_some, (places _ _).2 placed]
  rfl

/-- A load that leaves a module had room for all of its variables. -/
theorem fits_of_loaded? {m : Handle} (room : s.nextAddress < Text.wordBound)
    (loaded : s.loaded? e = some m) (read : e.text? = some text) :
    s.nextAddress + reservedFor (Ptx.symbols text).globals < Text.wordBound := by
  obtain ⟨c, text', globals, cursor, -, read', placed, -⟩ := exists_of_loaded? loaded
  obtain rfl : text = text' := Option.some.inj (read.symm.trans read')
  refine Nat.lt_of_not_le fun full => ?_
  rw [← fst_place_eq_none_iff room .empty, placed] at full
  cases full

/-! ### What becomes of a declaration -/

/-- **What a declaration means**, for any extents and in any text. It is read as one variable, with a size
that is what is declared, cut down to the greatest size, exactly if each extent fits a word or one of them
is zero; and else with size zero. When the text is loaded, at any point of a run, the load runs out of
memory exactly if the sizes that are read do not fit, in particular if what is declared does not fit and
the extents are such; and if the load succeeds, and no later declaration has the name, the variable is found
behind those before it, with the octets that are declared, or with none if the extents are not such. -/
theorem declared_variable_loaded (d : Ptx.Declaration) {text : String} {before after : List Char}
    (stands : d.StandsIn text before after) :
    let name := String.ofList d.name.chars
    ((Ptx.symbols text).globals =
        Ptx.globalsOf before ++ ⟨name, d.readBytes⟩ :: Ptx.globalsOf after ∧
      (d.readBytes = min d.bytes Ptx.maxSize ↔ d.Measured) ∧ (¬ d.Measured → d.readBytes = 0)) ∧
      ∀ devices capability es e image, e.image? = some image → imageText? image = some text →
        let s := (fresh devices capability).run es
        let place := s.nextAddress + reservedFor (Ptx.globalsOf before)
        (∀ c, s.current e.thread = .ok c → Ptx.isModule text = true →
          (s.reply e = .error .outOfMemory ↔
            Text.wordBound ≤ place + reserved d.readBytes + reservedFor (Ptx.globalsOf after)) ∧
          (d.Measured → Text.wordBound ≤ place + reserved d.bytes →
            s.reply e = .error .outOfMemory)) ∧
        ∀ m, s.loaded? e = some m → (∀ g ∈ Ptx.globalsOf after, g.name ≠ name) →
          (s.after e).global m (Utf8.encode name) =
            .ok ⟨place, if d.Measured then d.bytes else 0⟩ := by
  intro name
  have split := stands.globals_symbols
  have size := d.readBytes_eq
  have taken : reservedFor (Ptx.symbols text).globals = reservedFor (Ptx.globalsOf before) +
      reserved d.readBytes + reservedFor (Ptx.globalsOf after) := by
    rw [split, reservedFor_append, reservedFor_cons, Nat.add_assoc]
  refine ⟨⟨split, d.readBytes_eq_min_iff, fun unmeasured => by rw [size, if_neg unmeasured]⟩, ?_⟩
  intro devices capability es e image given read s place
  obtain ⟨-, -, start⟩ := nextAddress_fresh devices capability
  have room : s.nextAddress < Text.wordBound := (laid_takenIn _ es).stop_lt start
  have cursor : s.nextAddress + reservedFor (Ptx.symbols text).globals =
      place + reserved d.readBytes + reservedFor (Ptx.globalsOf after) := by
    rw [taken, ← Nat.add_assoc, ← Nat.add_assoc]
  constructor
  · intro c current valid
    have full : s.reply e = .error .outOfMemory ↔
        Text.wordBound ≤ place + reserved d.readBytes + reservedFor (Ptx.globalsOf after) := by
      rw [outOfMemory_iff room (loads_of_image? given), requested_of_image? given read current valid,
        cursor]
    refine ⟨full, fun measured large => full.2 ?_⟩
    rw [size, if_pos measured]
    exact Nat.le_trans (wordBound_le_reserved_min large) (Nat.le_add_right _ _)
  · intro m loaded last
    have source := text?_of_image? given read
    have fits := fits_of_loaded? room loaded source
    rw [cursor] at fits
    have found := global_of_loaded? loaded source split last
    have recorded : d.readBytes = if d.Measured then d.bytes else 0 := by
      rw [size] at fits ⊢
      split
      · rename_i measured
        rw [if_pos measured] at fits
        exact min_maxSize_of_fits (Nat.lt_of_le_of_lt (Nat.le_add_right _ _) fits)
      · rfl
    rw [← recorded]
    exact found

/-! ### Two arrays -/

/-- A letter alone is a name. -/
theorem rest_valid_nil : ∀ c ∈ ([] : List Char), (c.isAlphanum || c == '_' || c == '$') = true :=
  List.forall_mem_nil _

/-- The declaration of an array of octets. -/
def octetArray (extents : List Ptx.Numeral) : Ptx.Declaration where
  visible := false
  space := .global
  align := none
  kind := .bits
  width := .w8
  name := ⟨'x', [], by decide, rest_valid_nil⟩
  extents := extents

/-- What stands in front of it. -/
def arrayHeader : List Char := ".version 7.0\n.target sm_70\n".toList

/-- A module with an array of octets. -/
def arrayModule (extents : List Ptx.Numeral) : String :=
  String.ofList (arrayHeader ++ (".global .b8 ".toList ++ (octetArray extents).declarator ++ [] ++ []) ++
    ';' :: ['\n'])

/-- Two extents of 2 to the 32nd. -/
def squareExtents : List Ptx.Numeral :=
  [⟨"4294967296".toList, by decide, by decide⟩, ⟨"4294967296".toList, by decide, by decide⟩]

/-- One extent of 2 to the 64th. -/
def wordExtents : List Ptx.Numeral := [⟨"18446744073709551616".toList, by decide, by decide⟩]

section Array

variable (extents : List Ptx.Numeral)

theorem row_octetArray : Ptx.Row (octetArray extents).front ".global .b8 ".toList :=
  .cons (by decide : Ptx.IsSpace [' ']) (.cons (by decide : Ptx.IsSpace [' ']) .nil)

theorem plain_octetArray :
    Ptx.Plain (".global .b8 ".toList ++ (octetArray extents).declarator ++ []) :=
  Ptx.Declaration.plain_front_declarator (row_octetArray extents) (by decide)

theorem bodyOf_arrayModule : Ptx.bodyOf (arrayModule extents) = arrayHeader ++
    (".global .b8 ".toList ++ (octetArray extents).declarator ++ [] ++ []) ++ ';' :: ['\n'] := by
  have plain : '/' ∉ ".global .b8 ".toList ++ (octetArray extents).declarator ++ [] ++ [] :=
    List.not_mem_append ((plain_octetArray extents).not_mem (by decide)) List.not_mem_nil
  have hbody : '/' ∉ (arrayModule extents).toList := by
    rw [arrayModule, String.toList_ofList]
    exact List.not_mem_append (List.not_mem_append (by decide) plain) (by decide)
  rw [Ptx.bodyOf_eq_self hbody, arrayModule, String.toList_ofList]

theorem standsIn_arrayModule :
    (octetArray extents).StandsIn (arrayModule extents) arrayHeader ['\n'] where
  clear := by
    have last : (Ptx.declarationIn (Ptx.tailOf arrayHeader)).getLast? = some '\n' := by decide
    refine ⟨by decide, by decide, ?_⟩
    rw [last]
    rintro c ⟨⟩
    decide
  spells := ⟨_, .mk (row_octetArray extents) (by decide) (by simp) (by decide),
    bodyOf_arrayModule extents⟩

theorem isModule_arrayModule : Ptx.isModule (arrayModule extents) = true := by
  have words : ∀ word ∈ [".version".toList, ".target".toList],
      word ∈ Text.words (Ptx.bodyOf (arrayModule extents)) := by
    intro word hw
    have header : ∀ word ∈ [".version".toList, ".target".toList],
        word ∈ Text.words arrayHeader ∧ (Text.words arrayHeader).getLast? ≠ some word := by decide
    rw [bodyOf_arrayModule, List.append_assoc]
    exact (Text.mem_words_append (header word hw).1 _).resolve_right (header word hw).2
  have balanced : Text.balanced (Ptx.bodyOf (arrayModule extents)) = true := by
    rw [bodyOf_arrayModule, List.append_nil, List.append_assoc, Text.balanced_append (by decide),
      Text.balanced_append (plain_octetArray extents).balanced]
    decide
  rw [Ptx.isModule_eq, balanced, List.contains_iff_mem.2 (words _ (by decide)),
    List.contains_iff_mem.2 (words _ (by decide))]
  rfl

theorem imageText?_arrayModule :
    imageText? (Utf8.encode (arrayModule extents)) = some (arrayModule extents) := by
  refine imageText?_encode_of_isModule (isModule_arrayModule extents) ?_
  rw [arrayModule, String.toList_ofList, List.getLast?_append]
  rfl

end Array

/-- Two extents whose product does not fit a word: the load runs out of memory. -/
theorem declared_variable_loaded_square :
    let s := (fresh 1 (7, 0)).run contextRun
    (octetArray squareExtents).Measured ∧ Text.wordBound ≤ (octetArray squareExtents).bytes ∧
      (Ptx.symbols (arrayModule squareExtents)).globals = [⟨"x", Ptx.maxSize⟩] ∧
      s.reply (textLoad 0 (arrayModule squareExtents)) = .error .outOfMemory := by
  intro s
  have measured : (octetArray squareExtents).Measured := by decide
  have large : Text.wordBound ≤ (octetArray squareExtents).bytes := by decide
  obtain ⟨⟨defined, -, -⟩, load⟩ :=
    declared_variable_loaded (octetArray squareExtents) (standsIn_arrayModule squareExtents)
  obtain ⟨answer, -⟩ := load 1 (7, 0) contextRun (textLoad 0 (arrayModule squareExtents)) _ rfl
    (imageText?_arrayModule squareExtents)
  refine ⟨measured, large, defined, (answer 0x1100 rfl (isModule_arrayModule _)).2 measured ?_⟩
  refine Nat.le_trans large (Nat.le_trans ?_ (Nat.le_add_left _ _))
  exact Nat.le_trans (Nat.le_max_left _ 1) (max_le_reserved _)

/-- One extent that does not fit a word: the variable is read and found with no octets. -/
theorem exists_declared_not_recorded :
    ∃ (d : Ptx.Declaration) (text : String) (before after : List Char), d.StandsIn text before after ∧
      Text.wordBound ≤ d.bytes ∧ (Ptx.symbols text).globals = [⟨"x", 0⟩] ∧
      ∃ m, ((fresh 1 (7, 0)).run contextRun).loaded? (textLoad 0 text) = some m ∧
        (((fresh 1 (7, 0)).run contextRun).after (textLoad 0 text)).global m (Utf8.encode "x") =
          .ok ⟨0x7f0000000000, 0⟩ := by
  let s := (fresh 1 (7, 0)).run contextRun
  let e := textLoad 0 (arrayModule wordExtents)
  have split := (standsIn_arrayModule wordExtents).globals_symbols
  have defined : (Ptx.symbols (arrayModule wordExtents)).globals = [⟨"x", 0⟩] :=
    split.trans (by decide)
  have placed : place s.nextAddress .empty (Ptx.symbols (arrayModule wordExtents)).globals =
      (some (Table.empty.insert "x" ⟨0x7f0000000000, 0⟩), 0x7f0000000100) := by
    rw [defined]
    rfl
  have current : s.current 0 = .ok 0x1100 := rfl
  have answered := loadImage_eq_ok_iff.2 ⟨0x1100, _, _, _, current, imageText?_arrayModule wordExtents,
    isModule_arrayModule wordExtents, placed, rfl⟩
  have loaded : s.loaded? e = some 0x1200 := loaded?_of_ok (e := e) (congrArg Prod.fst answered)
  have defined' : (Ptx.symbols (arrayModule wordExtents)).globals = [] ++ ⟨"x", 0⟩ :: [] := defined
  have found := global_of_loaded? loaded (imageText?_arrayModule wordExtents) defined' (by decide)
  exact ⟨_, _, _, _, standsIn_arrayModule wordExtents, by decide, defined, 0x1200, loaded, found⟩

end GpuDriver.InProcess
