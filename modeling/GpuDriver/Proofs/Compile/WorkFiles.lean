import GpuDriver.Compile.WithNvcc
import GpuDriver.Proofs.Platform

/-!
# Where the files of a compilation are

The source and the result are named after what stands before the first dot of a file's name, its stem.
With a stem without slashes they are in the directory made for the compilation; with a stem that begins
with a slash they are where that says, whatever the directory; and with any other slash in the stem
nothing is written (`work_files_placed`). The compilation itself changes nothing anywhere else
(`withNvcc_sameAt`), and it answers with what the compiler left at the path of the result
(`withNvcc_eq_ok`).
-/

namespace GpuDriver.Compile

open FileTree

/-! ### Stems -/

section Stem

variable {filename suffix : String}

/-- A stem is not empty and has no dot. -/
theorem fileStem_spec (filename : String) :
    (fileStem filename).toList ≠ [] ∧ '.' ∉ (fileStem filename).toList := by
  rw [fileStem]
  split
  · decide
  · rename_i hstem
    rw [String.toList_ofList]
    refine ⟨fun hnil => hstem (List.isEmpty_iff.2 hnil), fun hdot => ?_⟩
    exact absurd (Text.eq_false_of_mem_firstPiece hdot) (by decide)

/-- The name of a file without slashes has a stem without. -/
theorem slash_not_mem_fileStem (h : '/' ∉ filename.toList) : '/' ∉ (fileStem filename).toList := by
  rw [fileStem]
  split
  · decide
  · rw [String.toList_ofList]
    exact fun hm => h ((List.takeWhile_sublist _).subset hm)

theorem slash_mem_iff : Path.slash ∈ Utf8.encode (fileStem filename) ↔
    '/' ∈ (fileStem filename).toList :=
  Utf8.octet_mem_encode_iff (x := '/') (by decide)

theorem dot_not_mem (filename : String) : Path.dot ∉ Utf8.encode (fileStem filename) := fun hm =>
  (fileStem_spec filename).2 ((Utf8.octet_mem_encode_iff (x := '.') (by decide)).1 hm)

theorem encode_fileStem_ne_nil (filename : String) : Utf8.encode (fileStem filename) ≠ [] := by
  intro hnil
  refine (fileStem_spec filename).1 ?_
  have hempty : fileStem filename = "" := Utf8.encode_injective (hnil.trans (by decide))
  rw [hempty]
  rfl

/-- A suffix of a work file: it has at least three octets, and no slash. -/
def IsSuffix (suffix : String) : Prop :=
  3 ≤ (Utf8.encode suffix).length ∧ Path.slash ∉ Utf8.encode suffix

instance : DecidablePred IsSuffix := fun _ => inferInstanceAs (Decidable (_ ∧ _))

theorem isSuffix_name (type : CodeType) : IsSuffix ("." ++ type.name) := by
  cases type <;> decide

/-- A stem without slashes names a file in a directory. -/
theorem isComponent_fileStem (hslash : '/' ∉ (fileStem filename).toList) (hs : IsSuffix suffix) :
    Path.IsComponent (Utf8.encode (fileStem filename ++ suffix)) := by
  rw [Utf8.encode_append]
  have long : 3 < (Utf8.encode (fileStem filename) ++ Utf8.encode suffix).length := by
    rw [List.length_append]
    have pos := List.length_pos_iff.2 (encode_fileStem_ne_nil filename)
    have := hs.1
    omega
  refine ⟨?_, ?_, ?_, ?_⟩
  · exact List.append_ne_nil_of_left_ne_nil (encode_fileStem_ne_nil filename) _
  · rw [List.mem_append]
    exact fun hm => hm.elim (fun h => hslash (slash_mem_iff.1 h)) hs.2
  · intro heq
    rw [heq] at long
    exact absurd long (by decide)
  · intro heq
    rw [heq] at long
    exact absurd long (by decide)

/-- The path of a work file starts at the root exactly if the stem begins with a slash. -/
theorem isAbsolute_fileStem_iff :
    Path.isAbsolute (Utf8.encode (fileStem filename ++ suffix)) = true ↔
      (fileStem filename).toList.head? = some '/' := by
  obtain ⟨o, rest, ho⟩ := List.exists_cons_of_ne_nil (encode_fileStem_ne_nil filename)
  have hhead : (Utf8.encode (fileStem filename ++ suffix)).head? =
      (Utf8.encode (fileStem filename)).head? := by
    rw [Utf8.encode_append, ho]
    rfl
  rw [Path.isAbsolute, beq_iff_eq, hhead]
  exact Utf8.head?_encode_eq_iff (x := '/') (by decide)

/-- With a slash behind its beginning a stem names a directory and something in it. -/
theorem components_fileStem (hslash : '/' ∈ (fileStem filename).toList)
    (hhead : (fileStem filename).toList.head? ≠ some '/') (suffix : String) :
    ∃ c c' cs, Path.IsComponent c ∧
      Path.components (Utf8.encode (fileStem filename ++ suffix)) = c :: c' :: cs := by
  obtain hnone | ⟨x, rest, hx, hsplit⟩ :=
    Text.exists_firstPiece_append (· == Path.slash) (Utf8.encode (fileStem filename))
  · have hm := slash_mem_iff.2 hslash
    rw [hnone] at hm
    exact absurd (Text.eq_false_of_mem_firstPiece hm) (by decide)
  obtain rfl : x = Path.slash := beq_iff_eq.1 hx
  generalize hc : Text.firstPiece (· == Path.slash) (Utf8.encode (fileStem filename)) = c at hsplit
  have sub : ∀ o ∈ c, o ∈ Utf8.encode (fileStem filename) := fun o ho => by
    rw [hsplit]
    exact List.mem_append_left _ ho
  have hdot : Path.dot ∉ c := fun hm => dot_not_mem filename (sub _ hm)
  have first : ∀ o ∈ c, (o == Path.slash) = false := fun o ho =>
    Text.eq_false_of_mem_firstPiece (p := (· == Path.slash)) (hc ▸ ho)
  have component : Path.IsComponent c := by
    refine ⟨?_, fun hm => absurd (first _ hm) (by decide), ?_, ?_⟩
    · rintro rfl
      refine hhead ((Utf8.head?_encode_eq_iff (x := '/') (by decide)).1 ?_)
      rw [hsplit]
      rfl
    · rintro rfl
      exact hdot List.mem_cons_self
    · rintro rfl
      exact hdot List.mem_cons_self
  have pieces : Path.components (Utf8.encode (fileStem filename ++ suffix)) =
      c :: Path.components (rest ++ Utf8.encode suffix) := by
    rw [Utf8.encode_append, hsplit, List.append_assoc, List.cons_append]
    exact (Text.pieces_append_cons (by rfl) c _).trans
      (congrArg (· ++ _) (Text.pieces_eq_singleton first))
  obtain ⟨c', cs, hrest⟩ := List.exists_cons_of_ne_nil
    (Text.pieces_ne_nil (· == Path.slash) (rest ++ Utf8.encode suffix))
  exact ⟨c, c', cs, component, pieces.trans (congrArg (c :: ·) hrest)⟩

end Stem

/-! ### What a compilation changes -/

section Frame

variable {σ : Type} {p : Platform σ} {t : FileTree} {root : Path} {place : Place} {P : Place → Prop}

/-- Programs that are run in the directory at the path `root` change nothing at the places in `P`, as long
as paths lead where they lead in the tree `t`. -/
def KeptInside (p : Platform σ) (t : FileTree) (root : Path) (P : Place → Prop) : Prop :=
  ∀ c files finished files', c.directory = root → files.links = t.links →
    files.directory = t.directory → p.run c files = .ok (finished, files') → SameAt P files files'

/-- The directory is removed from where it was made. -/
theorem sameAt_removeDirectory (made : t.Temporary root place) (apart : ∀ q, P q → ¬ place <+: q) :
    ∀ files, SameAt P t files → SameAt P t (files.removeDirectory root) := by
  intro files same
  obtain kept | ⟨q, node, located, removed⟩ := removeDirectory_cases files root
  · rw [kept]
    exact same
  · obtain rfl := made.locate_root (namedAlike_of_links same.links) same.directory located
    rw [removed]
    exact same.trans (sameAt_removeAll files apart)

theorem preserves_readResult (work : WorkFiles) (type : CodeType) {I : World σ → Prop} :
    (readResult work type).Preserves I := by
  refine (Act.preserves_look _).bind fun files => ?_
  refine ((Act.preserves_ofExcept _).mapError _).bind fun bytes => ?_
  cases type with
  | cubin => exact Act.preserves_pure _
  | ptx => dsimp only; split <;> first | exact Act.preserves_fail _ | exact Act.preserves_pure _

section Steps

variable {source : String} {options : List String} {arch filename : String} {type : CodeType}
  {w : World σ} {files : FileTree}
  (made : p.makeTemporary w.environment.temporaryParent w.files = .ok (root, files))

include made

/-- What holds of the files when the directory has been made, and is kept by writing the source, by the
compiler and by removing the directory, holds after the compilation. -/
theorem withNvcc_preserves {J : FileTree → Prop} (fresh : J files)
    (written : ∀ q node?, files.locate (WorkFiles.inside root filename type).source = .ok (q, node?) →
      ∀ contents, J (files.put q (.file contents)))
    (ran : ∀ c files finished files', c.directory = root → J files →
      p.run c files = .ok (finished, files') → J files')
    (clean : ∀ files, J files → J (files.removeDirectory root)) :
    J (withNvcc p source options arch filename type w).2.files := by
  have directory : makeWorkDirectory p w = (.ok root, { w with files }) := by
    rw [makeWorkDirectory, made]
  have cleaned : ∀ w : World σ, J w.files → J (removeWorkDirectory root w).files := fun w => clean _
  have run : ∀ nvcc given,
      J (runNvcc p (.inside root filename type) nvcc given source { w with files }).2.files := by
    intro nvcc given
    refine Act.snd_bind (I := fun w' => J w'.files) ?_ fun _ => ?_
    · rw [Act.snd_mapError]
      obtain same | ⟨q, node?, located, put⟩ := Act.files_writeFile
        (WorkFiles.inside root filename type).source (Utf8.encode source) { w with files }
      · rw [same]
        exact fresh
      · rw [put]
        exact written q node? located _
    · refine (Act.preserves_look _).bind fun _ => ?_
      exact (Platform.preserves_runCommand fun _ _ _ => ran _ _ _ _ rfl).mapError _
  have begun : withNvcc p source options arch filename type w =
      _ := (Act.bind_of_ok (Act.look_eq _)).trans (Act.bind_of_ok directory)
  rw [begun]
  refine Act.snd_bind (I := fun w' => J w'.files) (Act.snd_orElseClean (run _ _) cleaned)
    fun finished => ?_
  split
  · exact (preserves_readResult _ _).thenClean cleaned
  · exact preserves_refusal (World.outside_files J) _ _

/-- **What a compilation changes** is the directory made for it, what the path of the source leads to, and
what the compiler changes. -/
theorem withNvcc_sameAt (temporary : w.files.Temporary root place)
    (put : files = w.files.put place .directory) (apart : ∀ q, P q → ¬ place <+: q)
    (elsewhere : ∀ q node?, files.locate (WorkFiles.inside root filename type).source = .ok (q, node?) →
      ¬ P q) (kept : KeptInside p w.files root P) :
    SameAt P w.files (withNvcc p source options arch filename type w).2.files := by
  have fresh : SameAt P w.files files :=
    put ▸ sameAt_put w.files fun q hq heq => apart q hq (heq ▸ List.prefix_refl _)
  refine withNvcc_preserves made fresh ?_ ?_ (sameAt_removeDirectory temporary apart)
  · intro q node? located contents
    refine fresh.trans (sameAt_put files ?_)
    rintro q' hq rfl
    exact elsewhere q' node? located hq
  · intro c files finished files' hc same ran
    exact same.trans (kept c files finished files' hc same.links same.directory ran)

end Steps

theorem makeWorkDirectory_eq_ok {w w' : World σ} (h : makeWorkDirectory p w = (.ok root, w')) :
    ∃ files, p.makeTemporary w.environment.temporaryParent w.files = .ok (root, files) ∧
      w' = { w with files } := by
  rw [makeWorkDirectory] at h
  split at h
  · cases h
  · obtain ⟨hroot, rfl⟩ := Prod.mk.inj h
    obtain rfl := Except.ok.inj hroot
    exact ⟨_, ‹_›, rfl⟩

theorem readResult_eq_ok {work : WorkFiles} {type : CodeType} {code : Code} {w w' : World σ}
    (h : readResult work type w = (.ok code, w')) :
    w.files.read work.result = .ok code.bytes ∧ w' = w := by
  obtain ⟨files, w₁, looked, h⟩ := Act.bind_eq_ok_iff.1 h
  obtain ⟨rfl, rfl⟩ := Act.look_eq_ok_iff.1 looked
  obtain ⟨bytes, w₂, reading, h⟩ := Act.bind_eq_ok_iff.1 h
  obtain ⟨read, rfl⟩ := Act.ofExcept_eq_ok_iff.1 (Act.mapError_eq_ok_iff.1 reading)
  cases type with
  | cubin =>
    obtain ⟨rfl, rfl⟩ := Act.pure_eq_ok_iff.1 h
    exact ⟨read, rfl⟩
  | ptx =>
    cases decoded : Utf8.decode? bytes with
    | none =>
      simp only [decoded] at h
      cases h
    | some text =>
      simp only [decoded] at h
      obtain ⟨rfl, rfl⟩ := Act.pure_eq_ok_iff.1 h
      exact ⟨read.trans (congrArg Except.ok (Utf8.decode?_eq_some_iff.1 decoded)), rfl⟩

/-- The command that a compilation runs. -/
def nvccCommand (settings : Settings) (environment : Environment) (work : WorkFiles)
    (options : List String) (arch : String) (type : CodeType) : Command where
  program := settings.nvcc
  arguments := (nvccOptions settings options arch type).map Utf8.encode ++ [work.source]
  directory := work.root
  search := environment.programDirectories

/-- The compiler, run on the source in a directory made for it, ends without an error and leaves the code
`bytes` at the path of the result. When the directory has been removed the files are `left`. -/
def NvccLeaves (p : Platform σ) (w : World σ) (source : String) (options : List String)
    (arch filename : String) (type : CodeType) (bytes : Bytes) (left : FileTree) : Prop :=
  ∃ root before given after finished,
    let work := WorkFiles.inside root filename type
    p.makeTemporary w.environment.temporaryParent w.files = .ok (root, before) ∧
      before.write work.source (Utf8.encode source) = .ok given ∧
      p.run (nvccCommand w.settings w.environment work options arch type) given = .ok (finished, after) ∧
      finished.status = .exited 0 ∧ after.read work.result = .ok bytes ∧
      left = after.removeDirectory root

theorem NvccLeaves.congr {source : String} {options : List String} {arch filename : String}
    {type : CodeType} {bytes : Bytes} {w w' : World σ} {left : FileTree} (same : w.SameOutside w')
    (h : NvccLeaves p w' source options arch filename type bytes left) :
    NvccLeaves p w source options arch filename type bytes left := by
  rwa [NvccLeaves, same.files, same.environment, same.settings] at h

/-- **What a compilation answers** is what the compiler leaves. -/
theorem withNvcc_eq_ok {source : String} {options : List String} {arch filename : String}
    {type : CodeType} {w w' : World σ} {code : Code}
    (h : withNvcc p source options arch filename type w = (.ok code, w')) :
    NvccLeaves p w source options arch filename type code.bytes w'.files := by
  obtain ⟨settings, w₁, looked, h⟩ := Act.bind_eq_ok_iff.1 h
  obtain ⟨rfl, rfl⟩ := Act.look_eq_ok_iff.1 looked
  obtain ⟨root, w₁, making, h⟩ := Act.bind_eq_ok_iff.1 h
  obtain ⟨before, made, rfl⟩ := makeWorkDirectory_eq_ok making
  obtain ⟨finished, w₂, running, h⟩ := Act.bind_eq_ok_iff.1 h
  obtain ⟨⟨⟩, w₃, writing, running⟩ := Act.bind_eq_ok_iff.1 (Act.orElseClean_eq_ok_iff.1 running)
  obtain ⟨given, console, output, written, rfl⟩ := Act.writeFile_eq_ok (Act.mapError_eq_ok_iff.1 writing)
  obtain ⟨environment, w₄, looking, running⟩ := Act.bind_eq_ok_iff.1 running
  obtain ⟨rfl, rfl⟩ := Act.look_eq_ok_iff.1 looking
  obtain ⟨after, ran, rfl⟩ := Platform.runCommand_eq_ok (Act.mapError_eq_ok_iff.1 running)
  split at h
  · rename_i success
    obtain ⟨w₅, reading, rfl⟩ := Act.thenClean_eq_ok_iff.1 h
    obtain ⟨read, rfl⟩ := readResult_eq_ok reading
    exact ⟨root, before, given, after, finished, made, written, ran, success, read, rfl⟩
  · obtain ⟨-, w₅, -, h⟩ := Act.bind_eq_ok_iff.1 h
    obtain ⟨-, w₆, -, h⟩ := Act.bind_eq_ok_iff.1 h
    cases h

/-- A compilation whose source cannot be written fails before the compiler is run. -/
theorem withNvcc_of_write_eq_error {source : String} {arch filename : String} {type : CodeType}
    {w : World σ} {files : FileTree} {e : IoError}
    (made : p.makeTemporary w.environment.temporaryParent w.files = .ok (root, files))
    (refused : files.write (WorkFiles.inside root filename type).source (Utf8.encode source) = .error e)
    (options : List String) : withNvcc p source options arch filename type w =
      (.error (.io e), removeWorkDirectory root { w with files }) := by
  have directory : makeWorkDirectory p w = (.ok root, { w with files }) := by
    rw [makeWorkDirectory, made]
  have written : Act.writeFile (WorkFiles.inside root filename type).source (Utf8.encode source)
      { w with files } = (.error e, { w with files }) := by
    rw [Act.writeFile, refused]
  have run : withNvcc p source options arch filename type w =
      _ := (Act.bind_of_ok (Act.look_eq _)).trans (Act.bind_of_ok directory)
  rw [run]
  exact Act.bind_of_error (Act.orElseClean_of_error (Act.bind_of_error (Act.mapError_of_error written)))

end Frame

/-! ### The places of work files -/

/-- **Where the files of a compilation are**, for every file's name, where directories made for a time are
new. Nothing is changed but what is in the directory made for the compilation, what the path of the source
leads to, and what the compiler changes.
If the stem of the name has no slash, the paths of the source and of the result name something in the
directory and lead, if anywhere, to places right in it. If the stem has a slash behind its beginning, the
path of the source leads nowhere: the compilation fails, without having run the compiler or changed
anything outside of the directory. If the stem begins with a slash, the paths are the stem and its
suffixes, whatever the directory. -/
theorem work_files_placed {σ : Type} (p : Platform σ) (source : String) (options : List String)
    (arch filename : String) (type : CodeType) (w : World σ) (new : MakesFresh p.makeTemporary)
    (sound : w.files.Sound) {root : Path} {files : FileTree}
    (made : p.makeTemporary w.environment.temporaryParent w.files = .ok (root, files)) :
    let work := WorkFiles.inside root filename type
    let stem := fileStem filename
    let ended := withNvcc p source options arch filename type w
    ∃ place, w.files.at? place = none ∧ files = w.files.put place .directory ∧
      (∀ P : Place → Prop, (∀ q, P q → ¬ place <+: q) →
        (∀ q node?, files.locate work.source = .ok (q, node?) → ¬ P q) → KeptInside p w.files root P →
          SameAt P w.files ended.2.files) ∧
      ('/' ∉ stem.toList → ∃ c c', Path.IsComponent c ∧ Path.IsComponent c' ∧
        work.source = Path.join root c ∧ work.result = Path.join root c' ∧
        ∀ (files' : FileTree) q node?, files'.links = files.links → files'.directory = files.directory →
          (files'.locate work.source = .ok (q, node?) → q = place ++ [c]) ∧
          (files'.locate work.result = .ok (q, node?) → q = place ++ [c'])) ∧
      ('/' ∈ stem.toList → stem.toList.head? ≠ some '/' →
        (∃ e, ended.1 = .error (.io e)) ∧ SameAt (fun q => ¬ place <+: q) w.files ended.2.files) ∧
      (stem.toList.head? = some '/' → work.source = Utf8.encode (stem ++ ".cu") ∧
        work.result = Utf8.encode (stem ++ ("." ++ type.name))) := by
  intro work stem ended
  obtain ⟨place, temporary, put, -⟩ := new _ _ _ _ made
  have links : files.links = w.files.links := by rw [put]; rfl
  have directory : files.directory = w.files.directory := by rw [put]; rfl
  have suffix : IsSuffix ".cu" := by decide
  have result : fileStem filename ++ "." ++ type.name = fileStem filename ++ ("." ++ type.name) :=
    String.append_assoc ..
  refine ⟨place, temporary.nothing, put, fun P apart elsewhere kept =>
    withNvcc_sameAt made temporary put apart elsewhere kept, ?_, ?_, ?_⟩
  · intro noslash
    have hsource := isComponent_fileStem noslash suffix
    have hresult := isComponent_fileStem noslash (isSuffix_name type)
    refine ⟨_, _, hsource, hresult, rfl, congrArg (fun s => Path.join root (Utf8.encode s)) result, ?_⟩
    intro files' q node? links' directory'
    have links' := links'.trans links
    have directory' := directory'.trans directory
    refine ⟨temporary.locate_child directory' links' sound hsource, fun located => ?_⟩
    have located :
        files'.locate (Path.join root (Utf8.encode (fileStem filename ++ ("." ++ type.name)))) =
          .ok (q, node?) := by
      rw [← result]
      exact located
    exact temporary.locate_child directory' links' sound hresult located
  · intro hslash hhead
    have relative : Path.isAbsolute (Utf8.encode (fileStem filename ++ ".cu")) = false := by
      rw [← Bool.not_eq_true, isAbsolute_fileStem_iff]
      exact hhead
    obtain ⟨c, c', cs, hc, hcomponents⟩ := components_fileStem hslash hhead ".cu"
    obtain ⟨e, nowhere⟩ := temporary.locate_deeper sound relative hc hcomponents
    rw [← put] at nowhere
    obtain ⟨e, refused⟩ := write_of_locate_eq_error nowhere (Utf8.encode source)
    have failed : withNvcc p source options arch filename type w = _ :=
      withNvcc_of_write_eq_error made refused options
    have clean := sameAt_removeDirectory (P := fun q => ¬ place <+: q) temporary fun _ h => h
    show (∃ e, (withNvcc p source options arch filename type w).1 = .error (.io e)) ∧
      SameAt _ w.files (withNvcc p source options arch filename type w).2.files
    rw [failed]
    refine ⟨⟨e, rfl⟩, clean files ?_⟩
    exact put ▸ sameAt_put w.files fun q hq heq => hq (heq ▸ List.prefix_refl _)
  · intro hhead
    have absolute : ∀ suffix, Path.join root (Utf8.encode (fileStem filename ++ suffix)) =
        Utf8.encode (fileStem filename ++ suffix) := fun suffix =>
      if_pos (isAbsolute_fileStem_iff.2 hhead)
    exact ⟨absolute ".cu", (congrArg (fun s => Path.join root (Utf8.encode s)) result).trans
      (absolute ("." ++ type.name))⟩

/-! ### Two compilations -/

/-- A platform on which a command writes an empty file into the directory that it is run in. -/
def writingPlatform : Platform Unit where
  driver := fun _ _ _ s => (.error .notInitialized, s)
  nvrtc := fun _ s => (.error .crash, s)
  run := fun c files => (files.write (Path.join c.directory (Utf8.encode "k.ptx")) []).map
    fun files => (⟨.exited 0, [], []⟩, files)
  makeTemporary := makeNumbered

/-- A world with a directory for temporary directories and a file. -/
def fileWorld : World Unit where
  native := ()
  files := (({} : FileTree).put ([] ++ [Utf8.encode "tmp"]) .directory).put
    ([] ++ [Utf8.encode "k.cu"]) (.file [])

theorem sound_fileWorld : fileWorld.files.Sound :=
  (sound_empty.put rfl (by decide) _).put rfl (by decide) _

/-- The directory that is made there. -/
def madePath : Path := Utf8.encode "/tmp/.tmp000000"

theorem made_fileWorld : makeNumbered fileWorld.environment.temporaryParent fileWorld.files =
    .ok (madePath, fileWorld.files.put [Utf8.encode "tmp", Utf8.encode ".tmp000000"] .directory) := by
  rfl

/-- What is written into the directory is not written over the file. -/
theorem keptInside_writingPlatform :
    KeptInside writingPlatform fileWorld.files madePath fun q => q = [Utf8.encode "k.cu"] := by
  obtain ⟨place, temporary, -⟩ := makesFresh_makeNumbered _ _ _ _ made_fileWorld
  intro c files finished files' hc links directory ran
  obtain ⟨files', written, same⟩ : ∃ f, files.write (Path.join c.directory (Utf8.encode "k.ptx")) [] =
      .ok f ∧ f = files' := by
    have hrun : (files.write (Path.join c.directory (Utf8.encode "k.ptx")) []).map
        (fun files => ((⟨.exited 0, [], []⟩ : Finished), files)) = .ok (finished, files') := ran
    cases hwrite : files.write (Path.join c.directory (Utf8.encode "k.ptx")) [] with
    | error e => rw [hwrite] at hrun; cases hrun
    | ok f => rw [hwrite] at hrun; exact ⟨f, rfl, (Prod.mk.inj (Except.ok.inj hrun)).2⟩
  subst same
  obtain rfl | ⟨q, node?, located, rfl⟩ := write_cases written
  · exact .refl _ _
  · rw [hc] at located
    have component : Path.IsComponent (Utf8.encode "k.ptx") :=
      ⟨by decide, by decide, by decide, by decide⟩
    obtain rfl := temporary.locate_child directory links sound_fileWorld component located
    refine sameAt_put files ?_
    rintro _ rfl heq
    have heq : [] ++ [Utf8.encode "k.cu"] = place ++ [Utf8.encode "k.ptx"] := heq
    exact absurd (List.append_inj' heq rfl).2 (by decide)

/-- The source and the result come to the directory, and a file of the same name stays what it was. -/
theorem work_files_placed_plain :
    let work := WorkFiles.inside madePath "k.cu" .ptx
    let ended := withNvcc writingPlatform "s" [] "70" "k.cu" .ptx fileWorld
    (∃ c c', work.source = Path.join madePath c ∧ work.result = Path.join madePath c') ∧
      ended.1 = .ok (.ptx "") ∧ ended.2.files.at? [Utf8.encode "k.cu"] = some (.file []) := by
  intro work ended
  obtain ⟨place, nothing, -, frame, inside, -, -⟩ := work_files_placed writingPlatform "s" [] "70"
    "k.cu" .ptx fileWorld makesFresh_makeNumbered sound_fileWorld made_fileWorld
  obtain ⟨c, c', -, -, hsource, hresult, leads⟩ := inside (by decide)
  have top : place ≠ [] := fun hnil => by rw [hnil] at nothing; cases nothing
  have same := frame (fun q => q = [Utf8.encode "k.cu"]) ?_ ?_ keptInside_writingPlatform
  · exact ⟨⟨c, c', hsource, hresult⟩, by decide +kernel, same.at? _ rfl⟩
  · rintro _ rfl below
    obtain hplace | hplace := List.prefix_cons_iff.1 below
    · exact top hplace
    · obtain ⟨rest, hplace, hrest⟩ := hplace
      rw [List.prefix_nil.1 hrest] at hplace
      rw [hplace] at nothing
      exact absurd nothing (by decide)
  · rintro _ node? located rfl
    have hplace := (leads _ _ node? rfl rfl).1 located
    have hplace : [] ++ [Utf8.encode "k.cu"] = place ++ [c] := hplace
    exact top (List.append_inj' hplace rfl).1.symm

/-- With a stem that begins with a slash the source is written over a file outside of the directory. -/
theorem exists_source_outside :
    fileWorld.files.Sound ∧ fileWorld.files.at? [Utf8.encode "k.cu"] = some (.file []) ∧
      (withNvcc writingPlatform "s" [] "70" "/k.cu" .ptx fileWorld).2.files.at? [Utf8.encode "k.cu"] =
        some (.file (Utf8.encode "s")) :=
  ⟨sound_fileWorld, by decide, by decide +kernel⟩

end GpuDriver.Compile
