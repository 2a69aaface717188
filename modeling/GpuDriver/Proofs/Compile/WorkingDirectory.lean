import GpuDriver.Proofs.Compile.WorkFiles
import GpuDriver.Proofs.InProcess.Success
import GpuDriver.Workbench

/-!
# What a compilation leaves in the working directory

The command-line compiler is run in a directory made for the compilation, which is put among the temporary
files. If the programs that are run keep to the directory that they are run in, then a compilation leaves
everything in the working directory as it was, outside of that directory (`unwritten_withNvcc`).
-/

namespace GpuDriver

open FileTree

/-! ### Programs -/

namespace Command

variable {c : Command} {programs : Place → Option Executable} {files files' : FileTree}
  {program : Executable}

theorem programAt_eq_ok {p : Path} (h : programAt programs files p = .ok program) :
    ∃ place, programs place = some program := by
  rw [programAt] at h
  split at h
  · cases h
  · cases h
  · split at h
    · rename_i given
      exact ⟨_, Except.ok.inj h ▸ given⟩
    · cases h

theorem firstProgram_eq_ok {refused : Bool} {last : IoError} {ps : List Path}
    (h : firstProgram programs files refused last ps = .ok program) :
    ∃ place, programs place = some program := by
  induction ps generalizing refused last with
  | nil => cases h
  | cons p rest ih =>
    rw [firstProgram] at h
    split at h
    · rename_i found there
      obtain rfl := Except.ok.inj h
      exact programAt_eq_ok there
    · split at h
      · exact ih h
      · cases h

/-- A command is run by one of the programs, in a directory. -/
theorem run_eq_ok {finished : Finished} (h : c.run programs files = .ok (finished, files')) :
    ∃ here place program, files.locate c.directory = .ok (here, some .directory) ∧
      programs place = some program ∧ program c files = (finished, files') := by
  obtain ⟨seen, from_here, h⟩ := InProcess.bind_eq_ok_iff.1 h
  obtain ⟨program, found, h⟩ := InProcess.bind_eq_ok_iff.1 h
  have here : ∃ here, files.locate c.directory = .ok (here, some .directory) := by
    rw [seenFrom] at from_here
    split at from_here
    · cases from_here
    · cases from_here
    · exact ⟨_, ‹_›⟩
    · cases from_here
  obtain ⟨here, located⟩ := here
  have given : ∃ place, programs place = some program := by
    rw [find] at found
    split at found
    · cases found
    · split at found
      · cases found
      · exact firstProgram_eq_ok found
  obtain ⟨place, given⟩ := given
  refine ⟨here, place, program, located, given, ?_⟩
  split at h
  · cases h
  · exact Except.ok.inj h

end Command

/-- What is in the directory `d`, at any depth. -/
def Place.IsInside (d q : Place) : Prop := d <+: q ∧ q ≠ d

/-- The programs change nothing in the directory at `d`, nor any second name, but in the directory that
they are run in. -/
def KeepsDirectory (programs : Place → Option Executable) (d : Place) : Prop :=
  ∀ place program, programs place = some program → ∀ (c : Command) (files : FileTree) here,
    files.locate c.directory = .ok (here, some .directory) →
      (program c files).2.directory = files.directory ∧
        ∀ q, ¬ Place.IsInside here q → (program c files).2.links.get? q = files.links.get? q ∧
          (d <+: q → (program c files).2.at? q = files.at? q)

namespace FileTree

/-- No file in the working directory was created, changed or removed. Nor did anything further down in it
change, but in a directory that was made for a time in the directory at the path `parent`. -/
structure Unwritten (parent : Path) (before after : FileTree) : Prop where
  files (c : Bytes) (contents : Bytes) :
    after.at? (before.directory ++ [c]) = some (.file contents) ↔
      before.at? (before.directory ++ [c]) = some (.file contents)
  deeper : ∃ made : Option Place,
    (∀ place ∈ made, before.at? place = none ∧ ∃ above name,
      before.locate parent = .ok (above, some .directory) ∧ place = above ++ [name]) ∧
    ∀ q, before.directory <+: q → (∀ place ∈ made, ¬ place <+: q) → after.at? q = before.at? q

theorem Unwritten.refl (parent : Path) (t : FileTree) : Unwritten parent t t where
  files _ _ := Iff.rfl
  deeper := ⟨none, by simp, fun _ _ _ => rfl⟩

end FileTree

/-! ### One compilation -/

namespace Compile

/-- Since the tree `t`, in which the directory at `place` was made, nothing has changed in the working
directory but in that directory, and no file stands in its place. -/
structure Apart (t : FileTree) (place : Place) (t' : FileTree) : Prop where
  directory : t'.directory = t.directory
  links (q : Place) (h : ¬ Place.IsInside place q) : t'.links.get? q = t.links.get? q
  kept (q : Place) (h : t.directory <+: q) (outside : ¬ place <+: q) : t'.at? q = t.at? q
  no_file (h : t.directory <+: place) (contents : Bytes) : t'.at? place ≠ some (.file contents)

section Steps

variable {t t' : FileTree} {root : Path} {place q : Place}

theorem apart_made (made : t.Temporary root place) : Apart t place (t.put place .directory) where
  directory := rfl
  links _ _ := rfl
  kept q _ outside := at?_put_of_ne fun heq => outside (heq ▸ List.prefix_refl _)
  no_file _ contents := by
    rw [at?_put_self made.ne_nil]
    exact nofun

theorem Apart.put (h : Apart t place t') (inside : Place.IsInside place q) (node : FileNode) :
    Apart t place (t'.put q node) where
  directory := h.directory
  links := h.links
  kept q' hq' outside := by
    rw [at?_put_of_ne, h.kept q' hq' outside]
    rintro rfl
    exact outside inside.1
  no_file hplace contents := by
    rw [at?_put_of_ne inside.2.symm]
    exact h.no_file hplace contents

/-- The second names on the way to the directory are as they were. -/
theorem Apart.namedAlike (h : Apart t place t') (made : t.Temporary root place) (sound : t.Sound) :
    NamedAlike t t' := by
  intro above c there
  refine h.links _ fun inside => ?_
  obtain ⟨below, hne⟩ := inside
  obtain below | heq := List.prefix_concat_iff.1 below
  · exact hne below.symm
  · refine made.not_prefix sound ?_ heq
    rw [there]
    rfl

theorem Apart.removeDirectory (h : Apart t place t') (made : t.Temporary root place) (sound : t.Sound) :
    Apart t place (t'.removeDirectory root) := by
  obtain same | ⟨q, node, located, removed⟩ := removeDirectory_cases t' root
  · rw [same]
    exact h
  · obtain rfl := made.locate_root (h.namedAlike made sound) h.directory located
    rw [removed]
    exact {
      directory := h.directory
      links := h.links
      kept := fun q' hq' outside => (at?_removeAll_outside outside).trans (h.kept q' hq' outside)
      no_file := fun _ contents => by
        rw [at?_removeAll_inside (List.prefix_refl q) made.ne_nil]
        exact nofun }

/-- A program that keeps to the directory that it is run in. -/
theorem Apart.run {programs : Place → Option Executable} {c : Command} {finished : Finished}
    {files' : FileTree} (h : Apart t place t') (made : t.Temporary root place) (sound : t.Sound)
    (keeps : KeepsDirectory programs t.directory) (here : c.directory = root)
    (ran : c.run programs t' = .ok (finished, files')) : Apart t place files' := by
  obtain ⟨d, _, program, located, given, done⟩ := Command.run_eq_ok ran
  rw [here] at located
  obtain rfl := made.locate_root (h.namedAlike made sound) h.directory located
  obtain ⟨directory, kept⟩ := keeps _ program given c t' d (here ▸ located)
  rw [done] at directory kept
  exact {
    directory := directory.trans h.directory
    links := fun q outside => (kept q outside).1.trans (h.links q outside)
    kept := fun q hq outside => ((kept q fun inside => outside inside.1).2 hq).trans (h.kept q hq outside)
    no_file := fun hplace contents => by
      rw [(kept d fun inside => inside.2 rfl).2 hplace]
      exact h.no_file hplace contents }

theorem Apart.unwritten {parent : Path} (h : Apart t place t') (made : t.Temporary root place)
    (sound : t.Sound) (here : t.at? t.directory = some .directory)
    (above : ∃ above name, t.locate parent = .ok (above, some .directory) ∧ place = above ++ [name]) :
    Unwritten parent t t' where
  files c contents := by
    have below : t.directory <+: t.directory ++ [c] := List.prefix_append _ _
    by_cases inside : place <+: t.directory ++ [c]
    · -- nothing was there, and what is there now is the directory itself
      have outside : ¬ place <+: t.directory := made.not_prefix sound (by rw [here]; rfl)
      obtain rfl := (List.prefix_concat_iff.1 inside).resolve_right outside
      rw [made.nothing]
      exact ⟨fun there => absurd there (h.no_file below contents), nofun⟩
    · rw [h.kept _ below inside]
  deeper := by
    refine ⟨some place, fun _ hplace => ?_, fun q hq outside => h.kept q hq (outside place rfl)⟩
    obtain rfl := Option.some.inj hplace
    exact ⟨made.nothing, above⟩

end Steps

/-- **A compilation leaves the working directory alone** if the programs that it runs do. -/
theorem unwritten_withNvcc {ν : Type} {m : Machine ν} {w : World (Bench ν)} {filename : String}
    (sound : w.files.Sound) (here : w.files.at? w.files.directory = some .directory)
    (new : MakesFresh m.makeTemporary) (keeps : KeepsDirectory m.programs w.files.directory)
    (plain : '/' ∉ filename.toList) (source : String) (options : List String) (arch : String)
    (type : CodeType) :
    Unwritten w.environment.temporaryParent w.files
      (withNvcc m.inProcess source options arch filename type w).2.files := by
  cases making : m.inProcess.makeTemporary w.environment.temporaryParent w.files with
  | error e =>
    have failed : makeWorkDirectory m.inProcess w = (.error (.io e), w) := by
      rw [makeWorkDirectory, making]
    have ended : withNvcc m.inProcess source options arch filename type w = (.error (.io e), w) :=
      (Act.bind_of_ok (Act.look_eq _)).trans (Act.bind_of_error failed)
    rw [ended]
    exact .refl _ _
  | ok answer =>
    obtain ⟨root, files⟩ := answer
    obtain ⟨place, made, rfl, above⟩ := new _ _ _ _ making
    have apart : Apart w.files place
        (withNvcc m.inProcess source options arch filename type w).2.files := by
      refine withNvcc_preserves making (apart_made made) ?_ ?_ ?_
      · intro q node? located contents
        have component : Path.IsComponent (Utf8.encode (fileStem filename ++ ".cu")) :=
          isComponent_fileStem (slash_not_mem_fileStem plain) (by decide)
        have directory : (w.files.put place .directory).directory = w.files.directory := rfl
        obtain rfl := made.locate_child directory rfl sound component located
        exact (apart_made made).put ⟨List.prefix_append _ _, by simp⟩ _
      · intro c files finished files' hc apart ran
        exact apart.run made sound keeps hc ran
      · exact fun files apart => apart.removeDirectory made sound
    exact apart.unwritten made sound here above

end Compile

end GpuDriver
