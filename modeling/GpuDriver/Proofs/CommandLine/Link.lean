import GpuDriver.Proofs.CommandLine.Primary
import GpuDriver.Proofs.Owned.LinkSession
import GpuDriver.Proofs.Text.Octets

/-!
# Linking files

The files that are named are added to a link session one after the other, each if its kind is known and it
holds a module. What they hold is joined, and what was joined is written. So either they can be linked and
the output is what they are joined to, or no file has changed (`linkInputs_cases`).
-/

namespace GpuDriver.CommandLine

open Owned InProcess InProcess.State

variable {ν : Type} {system : System} {t : ThreadId} {w w' : World (Bench ν)}
  {fallback : Option ImageKind} {inputs : List Path} {out : Path}

/-! ### Inputs -/

/-- The kind of the file at a path is told by its extension or else by the user. -/
def KindKnown (fallback : Option ImageKind) (path : Path) : Prop :=
  (((Path.extension? path).bind Utf8.decode?).bind ImageKind.ofExtension?).isSome ∨ fallback.isSome

/-- The file at a path holds a module, with NULs at its end or without. -/
def HoldsModule (files : FileTree) (path : Path) (text : String) : Prop :=
  ∃ data, files.read path = .ok data ∧ imageText? data = some text ∧ Ptx.isModule text = true

theorem exists_inputKind_iff {path : Path} :
    (∃ kind, inputKind path fallback = .ok kind) ↔ KindKnown fallback path := by
  unfold inputKind KindKnown
  cases ((Path.extension? path).bind Utf8.decode?).bind ImageKind.ofExtension? with
  | some kind => simp
  | none => cases fallback <;> simp

/-- A file holds one module at most. -/
theorem rightUnique_holdsModule (files : FileTree) : Relator.RightUnique (HoldsModule files) := by
  rintro path text text' ⟨data, read, held, -⟩ ⟨data', read', held', -⟩
  obtain rfl := Except.ok.inj (read.symm.trans read')
  exact Option.some.inj (held.symm.trans held')

/-- What is read at a path has a name that can be handed to the driver. -/
theorem display_clean {files : FileTree} {path : Path} {data : Bytes} (read : files.read path = .ok data) :
    '\x00' ∉ (Path.display path).toList := by
  intro hm
  have nul : (0 : UInt8) ∈ path := Utf8.octet_mem_of_mem_decodeLossy (x := '\x00') (by decide) hm
  have fault : FileTree.pathFault? path = some .nulInPath := by
    rw [FileTree.pathFault?, if_pos (List.contains_iff_mem.2 nul)]
  rw [FileTree.read, FileTree.locate, fault] at read
  cases read

theorem readFile_eq_ok_iff {path : Path} {data : Bytes} :
    readFile path w = (.ok data, w') ↔ w.files.read path = .ok data ∧ w = w' := by
  refine Act.bind_eq_ok_iff.trans ?_
  simp only [Act.look_eq_ok_iff, Act.mapError_eq_ok_iff, Act.ofExcept_eq_ok_iff]
  constructor
  · rintro ⟨_, _, ⟨rfl, rfl⟩, read, rfl⟩
    exact ⟨read, rfl⟩
  · rintro ⟨read, rfl⟩
    exact ⟨_, _, ⟨rfl, rfl⟩, read, rfl⟩

/-! ### Adding -/

section Add

variable {l l' : LinkSession} {held : List LinkInput} (up : w.native.driver.initialized = true)
  (alive : w.native.driver.links.get? l.handle = some held)

include up alive

/-- A session accepts exactly the images that hold a module. -/
theorem add_eq_ok_iff {kind : ImageKind} {data : Bytes} {name : String}
    (clean : '\x00' ∉ name.toList) :
    l.add (Platform.inProcess system) t kind data name w = (.ok l', w') ↔
      ∃ text, imageText? data = some text ∧ Ptx.isModule text = true ∧
        l' = { l with inputCount := l.inputCount + 1 } ∧
        w' = w.withDriver { w.native.driver with
          links := w.native.driver.links.insert l.handle (held ++ [⟨kind, name, text⟩]) } := by
  constructor
  · intro added
    rcases answered : w.native.driver.addLinkInput l.handle kind (LinkSession.handedOver kind data)
        (Utf8.encode name) with ⟨status | u, s'⟩
    · cases (LinkSession.add_of_addLinkInput_error clean answered).symm.trans added
    · obtain ⟨-, held', text, alive', -, read, valid, rfl⟩ := addLinkInput_eq_ok_iff.1 answered
      obtain rfl := Option.some.inj (alive.symm.trans alive')
      have done := (LinkSession.add_of_addLinkInput clean answered).symm.trans added
      obtain ⟨hl, rfl⟩ := Prod.mk.inj done
      rw [imageText?_handedOver] at read
      rw [Utf8.decodeLossy_encode]
      exact ⟨text, read, valid, (Except.ok.inj hl).symm, rfl⟩
  · rintro ⟨text, read, valid, rfl, rfl⟩
    have added := addLinkInput_of_isModule up alive ((imageText?_handedOver kind data).trans read) valid
      kind (Utf8.encode name)
    rw [Utf8.decodeLossy_encode] at added
    exact LinkSession.add_of_addLinkInput clean added

/-- What was added are the modules that the files hold, in order. -/
theorem addInputs_eq_ok
    (added : addInputs (Platform.inProcess system) fallback l inputs w = (.ok l', w')) :
    ∃ new links, (∀ path ∈ inputs, KindKnown fallback path) ∧
      List.Forall₂ (HoldsModule w.files) inputs (new.map (·.text)) ∧
      w' = w.withDriver { w.native.driver with links } ∧ links.get? l.handle = some (held ++ new) ∧
      l'.handle = l.handle := by
  induction inputs generalizing l w held with
  | nil =>
    obtain ⟨rfl, rfl⟩ := Act.pure_eq_ok_iff.1 added
    exact ⟨[], w.native.driver.links, by simp, .nil, rfl, by simpa using alive, rfl⟩
  | cons path rest ih =>
    obtain ⟨kind, w₁, telling, reading⟩ := Act.bind_eq_ok_iff.1 added
    obtain ⟨told, rfl⟩ := Act.ofExcept_eq_ok_iff.1 telling
    obtain ⟨data, w₂, reading, adding⟩ := Act.bind_eq_ok_iff.1 reading
    obtain ⟨read, rfl⟩ := readFile_eq_ok_iff.1 reading
    obtain ⟨l₁, w₃, adding, going⟩ := Act.bind_eq_ok_iff.1 adding
    obtain ⟨text, holds, valid, rfl, rfl⟩ :=
      (add_eq_ok_iff up alive (display_clean read)).1 (Act.mapError_eq_ok_iff.1 adding)
    let input : LinkInput := ⟨kind, Path.display path, text⟩
    let s : State := { w.native.driver with
      links := w.native.driver.links.insert l.handle (held ++ [input]) }
    obtain ⟨new, links, known, others, rfl, after, handle⟩ :=
      ih (l := { l with inputCount := l.inputCount + 1 }) (w := w.withDriver s) up
        (Table.get?_insert_self ..) going
    refine ⟨input :: new, links, ?_, .cons ⟨data, read, holds, valid⟩ others, rfl, ?_, handle⟩
    · exact List.forall_mem_cons.2 ⟨exists_inputKind_iff.1 ⟨kind, told⟩, known⟩
    · rw [List.append_cons]
      exact after

variable (system) in
/-- Files of known kind that hold modules are added. -/
theorem exists_addInputs {files : FileTree} (here : w.files = files)
    (known : ∀ path ∈ inputs, KindKnown fallback path) {texts : List String}
    (hold : List.Forall₂ (HoldsModule files) inputs texts) :
    ∃ l' w', addInputs (Platform.inProcess system) fallback l inputs w = (.ok l', w') := by
  induction hold generalizing l w held with
  | nil => exact ⟨_, _, rfl⟩
  | @cons path text rest texts holds others ih =>
    obtain ⟨first, rest⟩ := List.forall_mem_cons.1 known
    obtain ⟨kind, told⟩ := exists_inputKind_iff.2 first
    obtain ⟨data, read, holds, valid⟩ := holds
    let l₁ : LinkSession := { l with inputCount := l.inputCount + 1 }
    let w₁ := w.withDriver { w.native.driver with
      links := w.native.driver.links.insert l.handle (held ++ [⟨kind, Path.display path, text⟩]) }
    have added : l.add (Platform.inProcess system) mainThread kind data (Path.display path) w =
        (.ok l₁, w₁) :=
      (add_eq_ok_iff up alive (display_clean read)).2 ⟨text, holds, valid, rfl, rfl⟩
    obtain ⟨l', w', ended⟩ := ih (l := l₁) (w := w₁) up (Table.get?_insert_self ..) here rest
    refine ⟨l', w', ?_⟩
    refine (Act.bind_of_ok (Act.ofExcept_of_ok told)).trans ?_
    refine (Act.bind_of_ok (readFile_eq_ok_iff.2 ⟨here ▸ read, rfl⟩)).trans ?_
    exact (Act.bind_of_ok (Act.mapError_of_ok added)).trans ended

end Add

/-! ### Joining -/

/-- What modules are joined to: each is followed by a line feed. -/
def joinedText (texts : List String) : String := String.join (texts.map (· ++ "\n"))

/-- The files at the paths can be linked, and hold the modules `texts`. -/
structure Linkable (files : FileTree) (fallback : Option ImageKind) (inputs : List Path)
    (texts : List String) : Prop where
  given : inputs ≠ []
  known : ∀ path ∈ inputs, KindKnown fallback path
  hold : List.Forall₂ (HoldsModule files) inputs texts
  distinct : (texts.flatMap fun text => (Ptx.symbols text).entries).Nodup

/-- What is done in a link session. -/
def joinInputs (p : Platform (Bench ν)) (fallback : Option ImageKind) (inputs : List Path) (out : Path)
    (l : LinkSession) : Doing ν Bytes := do
  let l ← addInputs p fallback l inputs
  let image ← (l.complete p mainThread).mapError .ofCall
  writeFile out image
  return image

theorem linkInputs_eq (p : Platform (Bench ν)) (fallback : Option ImageKind) (inputs : List Path)
    (out : Path) : linkInputs p inputs out fallback = (do
      let l ← (LinkSession.create p mainThread).mapError .ofCall
      let image ← (joinInputs p fallback inputs out l).orElseClean (l.drop p mainThread)
      (l.destroy p mainThread).mapError .ofCall
      say ("linked " ++ Text.decimal inputs.length ++ " inputs -> " ++ Path.display out ++ " (" ++
        Text.decimal image.length ++ " bytes)")) := rfl

theorem linkedText_eq (new : List LinkInput) : linkedText new = joinedText (new.map (·.text)) := by
  rw [linkedText, joinedText, List.map_map]
  rfl

theorem linkedEntries_eq (new : List LinkInput) :
    linkedEntries new = (new.map (·.text)).flatMap fun text => (Ptx.symbols text).entries := by
  rw [linkedEntries, List.flatMap_map]

theorem complete_eq_ok_iff {l : LinkSession} {image : Bytes} :
    l.complete (Platform.inProcess system) t w = (.ok image, w') ↔
      w.native.driver.completeLink l.handle = .ok image ∧ w = w' := by
  rw [Prod.ext_iff, LinkSession.snd_complete]
  exact and_congr_left fun _ => Platform.call_fst_eq_ok_iff

section Join

variable {l : LinkSession} (up : w.native.driver.initialized = true)
  (alive : w.native.driver.links.get? l.handle = some [])

include up alive

theorem joinInputs_eq_ok {image : Bytes}
    (joined : joinInputs (Platform.inProcess system) fallback inputs out l w = (.ok image, w')) :
    ∃ texts held, Linkable w.files fallback inputs texts ∧
      w.files.write out (Utf8.encode (joinedText texts)) = .ok w'.files ∧
      w'.native.driver.initialized = true ∧ w'.native.driver.links.get? l.handle = some held := by
  obtain ⟨l', w₁, adding, h₁⟩ := Act.bind_eq_ok_iff.1 joined
  obtain ⟨new, links, known, hold, rfl, after, handle⟩ := addInputs_eq_ok up alive adding
  obtain ⟨image', w₂, completing, h₂⟩ := Act.bind_eq_ok_iff.1 h₁
  obtain ⟨completed, rfl⟩ := complete_eq_ok_iff.1 (Act.mapError_eq_ok_iff.1 completing)
  obtain ⟨-, held, alive', given, distinct, rfl⟩ := completeLink_eq_ok_iff.1 completed
  obtain rfl : new = held := by
    rw [handle] at alive'
    exact Option.some.inj (after.symm.trans alive')
  obtain ⟨⟨⟩, w₃, writing, h₃⟩ := Act.bind_eq_ok_iff.1 h₂
  obtain ⟨-, rfl⟩ := Act.pure_eq_ok_iff.1 h₃
  obtain ⟨files, console, output, written, rfl⟩ := Act.writeFile_eq_ok (Act.mapError_eq_ok_iff.1 writing)
  refine ⟨new.map (·.text), _, ⟨?_, known, hold, linkedEntries_eq new ▸ distinct⟩,
    linkedText_eq new ▸ written, up, after⟩
  rintro rfl
  exact given (List.map_eq_nil_iff.1 (List.forall₂_nil_left_iff.1 hold))

variable (system) in
theorem exists_joinInputs {texts : List String} (linkable : Linkable w.files fallback inputs texts)
    {files : FileTree} (written : w.files.write out (Utf8.encode (joinedText texts)) = .ok files) :
    ∃ image w', joinInputs (Platform.inProcess system) fallback inputs out l w = (.ok image, w') := by
  obtain ⟨l', w₁, added⟩ := exists_addInputs system up alive rfl linkable.known linkable.hold
  obtain ⟨new, links, -, hold, rfl, after, handle⟩ := addInputs_eq_ok up alive added
  obtain rfl : texts = new.map (·.text) :=
    List.right_unique_forall₂' (rightUnique_holdsModule _) linkable.hold hold
  have given : new ≠ [] := by
    rintro rfl
    exact linkable.given (List.forall₂_nil_right_iff.1 hold)
  let w₁ := w.withDriver { w.native.driver with links }
  have completed : l'.complete (Platform.inProcess system) mainThread w₁ =
      (.ok (Utf8.encode (linkedText new)), w₁) :=
    LinkSession.complete_of_nodup (w := w₁) up (handle ▸ after) given
      (linkedEntries_eq new ▸ linkable.distinct)
  obtain ⟨console, output, wrote⟩ := Act.writeFile_of_ok (w := w₁) (linkedText_eq new ▸ written)
  exact ⟨_, _, (Act.bind_of_ok added).trans ((Act.bind_of_ok (Act.mapError_of_ok completed)).trans
    (Act.bind_of_ok (Act.mapError_of_ok wrote)))⟩

end Join

theorem preserves_addInputs {p : Platform (Bench ν)} {I : World (Bench ν) → Prop}
    (hI : World.Outside I) (l : LinkSession) : (addInputs p fallback l inputs).Preserves I := by
  induction inputs generalizing l with
  | nil => exact Act.preserves_pure _
  | cons path rest ih =>
    refine (Act.preserves_ofExcept _).bind fun kind => ?_
    refine Act.Preserves.bind ?_ fun data => ?_
    · exact (Act.preserves_look _).bind fun _ => (Act.preserves_ofExcept _).mapError _
    · exact ((LinkSession.preserves_add hI).mapError _).bind ih

/-- Nothing is written unless everything before has succeeded. -/
theorem onFailure_joinInputs {p : Platform (Bench ν)} {I : World (Bench ν) → Prop}
    (hI : World.Outside I) (l : LinkSession) : (joinInputs p fallback inputs out l).OnFailure I I := by
  refine (preserves_addInputs hI l).onFailure_bind fun l => ?_
  refine ((Platform.preserves_call hI _).mapError _).onFailure_bind fun image => ?_
  exact (Act.onFailure_writeFile.mapError _).bind_ok fun _ _ => ⟨_, _, rfl⟩

variable (system) in
/-- **Linking files**, with a current context: if they can be linked and the output can be written, the
output is what they are joined to; otherwise it fails and no file has changed. -/
theorem linkInputs_cases {c : Handle} (current : w.native.driver.current mainThread = .ok c)
    (fallback : Option ImageKind) (inputs : List Path) (out : Path) :
    (∃ texts w', Linkable w.files fallback inputs texts ∧
      w.files.write out (Utf8.encode (joinedText texts)) = .ok w'.files ∧
      linkInputs (Platform.inProcess system) inputs out fallback w = (.ok (), w')) ∨
    ((∀ texts files, Linkable w.files fallback inputs texts →
        w.files.write out (Utf8.encode (joinedText texts)) ≠ .ok files) ∧
      ∃ e w', linkInputs (Platform.inProcess system) inputs out fallback w = (.error e, w') ∧
        w'.files = w.files) := by
  have up : w.native.driver.initialized = true := (current_eq_ok_iff.1 current).1
  let l : LinkSession := ⟨w.native.driver.lastHandle + handleStep, 0⟩
  let w₁ := w.withDriver { w.native.driver with
    lastHandle := w.native.driver.lastHandle + handleStep
    links := w.native.driver.links.insert (w.native.driver.lastHandle + handleStep) [] }
  have created : LinkSession.create (Platform.inProcess system) mainThread w = (.ok l, w₁) :=
    LinkSession.create_of_current current
  have alive : w₁.native.driver.links.get? l.handle = some [] := Table.get?_insert_self ..
  have begun := (congrFun (linkInputs_eq (Platform.inProcess system) fallback inputs out) w).trans
    (Act.bind_of_ok (Act.mapError_of_ok created))
  rw [begun]
  rcases joined : joinInputs (Platform.inProcess system) fallback inputs out l w₁ with ⟨e | image, w₂⟩
  · right
    refine ⟨fun texts files linkable written => ?_, ?_⟩
    · obtain ⟨image, w', ended⟩ := exists_joinInputs system (w := w₁) up alive linkable written
      cases joined.symm.trans ended
    · have kept : w₂.files = w.files :=
        (onFailure_joinInputs (World.outside_sameOutside w₁) l w₁ (.refl w₁) e w₂ joined).files
      exact ⟨e, _, Act.bind_of_error (Act.orElseClean_of_error joined),
        (LinkSession.quiet_drop l w₂).sameOutside.files.trans kept⟩
  · left
    obtain ⟨texts, held, linkable, written, up, alive⟩ := joinInputs_eq_ok (w := w₁) up alive joined
    have destroyed : l.destroy (Platform.inProcess system) mainThread w₂ = _ :=
      LinkSession.destroy_of_get? up alive
    exact ⟨texts, _, linkable, by exact written, (Act.bind_of_ok (Act.orElseClean_of_ok joined)).trans
      (Act.bind_of_ok (Act.mapError_of_ok destroyed))⟩

/-- The same for the whole task, on a driver that has not been used yet: the device must be there as
well. -/
theorem perform_link_cases (m : Machine ν) (fresh : w.native.driver = .fresh) (device : Int)
    (fallback : Option ImageKind) (inputs : List Path) (out : Path) :
    (∃ texts w', started.HasDevice ⟨device⟩ ∧ Linkable w.files fallback inputs texts ∧
      w.files.write out (Utf8.encode (joinedText texts)) = .ok w'.files ∧
      perform m ⟨true, device, .link inputs out fallback⟩ w = (.ok (), w')) ∨
    ((∀ texts files, started.HasDevice ⟨device⟩ → Linkable w.files fallback inputs texts →
        w.files.write out (Utf8.encode (joinedText texts)) ≠ .ok files) ∧
      ∃ e w', perform m ⟨true, device, .link inputs out fallback⟩ w = (.error e, w') ∧
        w'.files = w.files) := by
  have begun : perform m ⟨true, device, .link inputs out fallback⟩ w = _ :=
    Act.bind_of_ok (openDriver_fresh m fresh)
  rw [begun]
  by_cases given : inputs = []
  · right
    subst given
    exact ⟨fun _ _ _ linkable => absurd rfl linkable.given, _, _, rfl, rfl⟩
  · rw [if_neg (by simpa using given)]
    let w₁ := w.withDriver started
    let p : Platform (Bench ν) := Platform.inProcess m.system
    have task := inPrimary_cases m.system (w := w₁) rfl
      (linkInputs p inputs out fallback) device
    obtain ⟨known, context, placed⟩ | ⟨unknown, e, failed⟩ := task
    · have linked := linkInputs_cases m.system
        (w := w₁.withDriver working) current_working fallback inputs out
      obtain ⟨texts, w', linkable, written, done⟩ | ⟨never, e, w', failed, kept⟩ := linked
      · left
        refine ⟨texts, _, known, linkable, ?_, placed.trans (Act.thenClean_of_ok done)⟩
        rw [(PrimaryContext.quiet_drop ..).sameOutside.files]
        exact written
      · right
        refine ⟨fun texts files _ => never texts files, e, _,
          placed.trans (Act.thenClean_of_error failed), ?_⟩
        rw [(PrimaryContext.quiet_drop ..).sameOutside.files]
        exact kept
    · right
      exact ⟨fun _ _ known => absurd known unknown, e, _, failed, rfl⟩

end GpuDriver.CommandLine
