import GpuDriver.Proofs.Compile.WorkFiles
import GpuDriver.Proofs.Settings

/-!
# What is written to standard error

A compilation that the compiler refuses is dumped to standard error if dumps are asked for at the time, and
nothing is written there otherwise. The runtime compiler changes nothing but its own state and the warnings
(`World.Quiet`), so the settings and the environment by which it is decided are those that the compilation
began with; so they are with the command-line compiler, whose work changes files only.
-/

namespace GpuDriver

variable {σ : Type} {p : Platform σ}

/-! ### Calls of the runtime compiler -/

namespace Owned.Program

theorem quiet_create (source name : String) (w : World σ) : w.Quiet (create p source name w).2 := by
  have quiet : (create p source name).Preserves w.Quiet := by
    refine (Act.preserves_ofExcept _).bind fun _ => (Act.preserves_ofExcept _).bind fun _ => ?_
    exact Act.Preserves.bind (fun w' h => h.trans (p.quiet_callNvrtc _ w')) fun _ =>
      Act.preserves_pure _
  exact quiet w (.refl w)

theorem quiet_compile (q : Program) (options : List String) (w : World σ) :
    w.Quiet (q.compile p options w).2 := by
  have quiet : (q.compile p options).Preserves w.Quiet :=
    (Act.preserves_ofExcept _).bind fun _ w' h => h.trans (p.quiet_callNvrtc _ w')
  exact quiet w (.refl w)

end Owned.Program

namespace Compile

open Owned

variable {source arch filename : String} {options : List String} {type : CodeType}
  {failure : Failure} {w w' : World σ}

/-! ### Reports -/

/-- What a report writes. -/
def reported (asked : Bool) (failure : Failure) : Bytes :=
  if asked then Utf8.encode failure.dump else []

theorem console_report (failure : Failure) (w : World σ) : (report failure w).console =
    w.console ++ reported (w.settings.dumpsSource w.environment) failure := by
  rw [report, reported]
  split
  · rfl
  · rw [List.append_nil]

/-- A refusal is reported, and it is the answer. -/
theorem refusal_eq_error {α : Type} {message : String} {refusal : Failure} {e : Error} (h : (do
    Act.change (report refusal)
    Act.change fun w => w.warn message
    Act.fail (.compile refusal) : Act σ Error α) w = (.error e, w')) :
    e = .compile refusal ∧
      w'.console = w.console ++ reported (w.settings.dumpsSource w.environment) refusal := by
  obtain ⟨same, rfl⟩ := Prod.mk.inj h
  exact ⟨(Except.error.inj same).symm, console_report refusal w⟩

/-! ### The runtime compiler -/

/-- What failed is the source, given with all of the options, and it was reported. -/
theorem compileProgram_eq_error {q : Program}
    (h : compileProgram p q source filename options w = (.error (.compile failure), w')) :
    failure.source = source ∧ failure.options = options ∧
      w'.console = w.console ++ reported (w.settings.dumpsSource w.environment) failure := by
  obtain failed | ⟨answer, w₁, attempted, h⟩ := Act.bind_eq_error_iff.1 h
  · cases failed
  have quiet := q.quiet_compile (p := p) options w
  rw [Act.attempt_eq_ok_iff.1 attempted] at quiet
  rcases answer with e | ⟨⟩
  · cases e with
    | crash => cases h
    | _ =>
      obtain failed | ⟨log, w₂, logged, h⟩ := Act.bind_eq_error_iff.1 h
      · cases failed
      have quiet' := p.quiet_callNvrtc (.log q.handle) w₁
      rw [show p.callNvrtc (.log q.handle) w₁ = _ from Act.attempt_eq_ok_iff.1 logged] at quiet'
      obtain ⟨same, console⟩ := refusal_eq_error h
      obtain rfl := Error.compile.inj same
      obtain ⟨native, warnings, rfl⟩ := quiet.trans quiet'
      exact ⟨rfl, rfl, console⟩
  · obtain failed | ⟨ptx, w₂, -, h⟩ := Act.bind_eq_error_iff.1 h
    · obtain ⟨e, -, different⟩ := Act.mapError_eq_error_iff.1 failed
      cases different
    · cases decoded : Utf8.decode? ptx with
      | none =>
        simp only [decoded] at h
        cases h
      | some text =>
        simp only [decoded] at h
        cases h

/-- **A source that the runtime compiler refuses** is what failed, with the options that the compiler was
given, and it is reported. -/
theorem withNvrtc_eq_error
    (h : withNvrtc p source options arch filename w = (.error (.compile failure), w')) :
    failure.source = source ∧ failure.options = nvrtcOptions w.settings options arch ∧
      w'.console = w.console ++ reported (w.settings.dumpsSource w.environment) failure := by
  obtain failed | ⟨settings, w₁, looked, h⟩ := Act.bind_eq_error_iff.1 h
  · cases failed
  obtain ⟨rfl, rfl⟩ := Act.look_eq_ok_iff.1 looked
  obtain failed | ⟨q, w₁, creating, h⟩ := Act.bind_eq_error_iff.1 h
  · obtain ⟨e, -, different⟩ := Act.mapError_eq_error_iff.1 failed
    cases different
  have created := Program.quiet_create (p := p) source filename w
  rw [Act.mapError_eq_ok_iff.1 creating] at created
  obtain ⟨w₂, refused, rfl⟩ := Act.thenClean_eq_error_iff.1 h
  obtain ⟨text, given, console⟩ := compileProgram_eq_error refused
  obtain ⟨native, warnings, rfl⟩ := created
  obtain ⟨native', warnings', dropped⟩ := q.quiet_drop (p := p) w₂
  rw [dropped]
  exact ⟨text, given, console⟩

/-! ### The command-line compiler -/

/-- What is written to standard error when a compilation's source is written: the source, if its path leads
there. -/
def echoed (p : Platform σ) (w : World σ) (source filename : String) (type : CodeType) : Bytes :=
  match p.makeTemporary w.environment.temporaryParent w.files with
  | .error _ => []
  | .ok (root, files) =>
    if files.sink? (WorkFiles.inside root filename type).source = some .errors then
      Utf8.encode source
    else []

/-- The source of a file's name without slashes is written to no stream. -/
theorem echoed_eq_nil (new : FileTree.MakesFresh p.makeTemporary) (sound : w.files.Sound)
    (plain : '/' ∉ (fileStem filename).toList) : echoed p w source filename type = [] := by
  rw [echoed]
  cases made : p.makeTemporary w.environment.temporaryParent w.files with
  | error e => rfl
  | ok found =>
    obtain ⟨root, files⟩ := found
    obtain ⟨place, temporary, put, -⟩ := new _ _ _ _ made
    have suffix : IsSuffix ".cu" := by decide
    have component := isComponent_fileStem plain suffix
    refine if_neg fun keeps => ?_
    rw [FileTree.sink?] at keeps
    split at keeps
    · rename_i q node located
      have links : files.links = w.files.links := by rw [put]; rfl
      have directory : files.directory = w.files.directory := by rw [put]; rfl
      obtain rfl := temporary.locate_child directory links sound component located
      have node := FileTree.snd_walk (FileTree.locate_eq_ok_iff.1 located).2
      rw [put, FileTree.at?_put_of_ne (by simp), (temporary.empty sound _).1] at node
      cases node
    · cases keeps

theorem runNvcc_ne_compile {work : WorkFiles} {nvcc : Path} :
    runNvcc p work nvcc options source w ≠ (.error (.compile failure), w') := by
  intro h
  obtain failed | ⟨⟨⟩, w₁, -, h⟩ := Act.bind_eq_error_iff.1 h
  · obtain ⟨e, -, different⟩ := Act.mapError_eq_error_iff.1 failed
    cases different
  obtain failed | ⟨environment, w₂, -, h⟩ := Act.bind_eq_error_iff.1 h
  · cases failed
  obtain ⟨e, -, different⟩ := Act.mapError_eq_error_iff.1 h
  cases different

theorem readResult_ne_compile {work : WorkFiles} :
    readResult work type w ≠ (.error (.compile failure), w') := by
  intro h
  obtain failed | ⟨files, w₁, -, h⟩ := Act.bind_eq_error_iff.1 h
  · cases failed
  obtain failed | ⟨bytes, w₂, -, h⟩ := Act.bind_eq_error_iff.1 h
  · obtain ⟨e, -, different⟩ := Act.mapError_eq_error_iff.1 failed
    cases different
  cases type with
  | cubin => cases h
  | ptx =>
    cases decoded : Utf8.decode? bytes with
    | none =>
      simp only [decoded] at h
      cases h
    | some text =>
      simp only [decoded] at h
      cases h

/-- **A source that the command-line compiler refuses** is what failed, with the options of the caller, and
it is reported. -/
theorem withNvcc_eq_error
    (h : withNvcc p source options arch filename type w = (.error (.compile failure), w')) :
    failure.source = source ∧ failure.options = options ∧
      w'.console = w.console ++ echoed p w source filename type ++
        reported (w.settings.dumpsSource w.environment) failure := by
  obtain failed | ⟨settings, w₁, looked, h⟩ := Act.bind_eq_error_iff.1 h
  · cases failed
  obtain ⟨rfl, rfl⟩ := Act.look_eq_ok_iff.1 looked
  obtain failed | ⟨root, w₁, making, h⟩ := Act.bind_eq_error_iff.1 h
  · rw [makeWorkDirectory] at failed
    split at failed <;> cases failed
  obtain ⟨before, made, rfl⟩ := makeWorkDirectory_eq_ok making
  obtain failed | ⟨finished, w₂, running, h⟩ := Act.bind_eq_error_iff.1 h
  · obtain ⟨w₂, failed, -⟩ := Act.orElseClean_eq_error_iff.1 failed
    exact absurd failed runNvcc_ne_compile
  obtain ⟨⟨⟩, w₃, writing, running⟩ := Act.bind_eq_ok_iff.1 (Act.orElseClean_eq_ok_iff.1 running)
  have writing := Act.mapError_eq_ok_iff.1 writing
  have written := Act.console_of_writeFile writing
  obtain ⟨given, console, output, -, rfl⟩ := Act.writeFile_eq_ok writing
  obtain ⟨environment, w₄, looking, running⟩ := Act.bind_eq_ok_iff.1 running
  obtain ⟨rfl, rfl⟩ := Act.look_eq_ok_iff.1 looking
  obtain ⟨after, -, rfl⟩ := Platform.runCommand_eq_ok (Act.mapError_eq_ok_iff.1 running)
  split at h
  · obtain ⟨w₅, failed, -⟩ := Act.thenClean_eq_error_iff.1 h
    exact absurd failed readResult_ne_compile
  · obtain ⟨same, console⟩ := refusal_eq_error h
    obtain rfl := Error.compile.inj same
    refine ⟨rfl, rfl, ?_⟩
    rw [console, echoed, made]
    exact congrArg (· ++ _) written

/-! ### Histories of changes -/

/-- **Failed sources are dumped as the changes before ask for it.** After any changes of the environment
and of the stored settings, a compilation that a compiler refuses leaves the source that it was given, and
with the runtime compiler all of the options, with the other one those of the caller. What it writes to
standard error is the dump of what is left, if the variable says so or says nothing and the flag that was
stored last asks for dumps, and else nothing; the source of the command-line compiler comes before it
if its path leads there, which that of a file's name without slashes does not, where directories made for a
time are new. -/
theorem dumped_as_asked (p : Platform σ) (start : World σ) (changes : List Settings.Change)
    (source arch filename : String) (options : List String) :
    let w := changes.foldl World.configure start
    let asked := Settings.AsksForDump start changes.reverse
    let debug := if w.settings.compileWithDebug then ["--device-debug", "--generate-line-info"] else []
    (∀ failure w',
      withNvrtc p source options arch filename w = (.error (.compile failure), w') →
        failure.source = source ∧ failure.options = options ++ ["-arch=compute_" ++ arch] ++ debug ∧
        (asked → w'.console = w.console ++ Utf8.encode failure.dump) ∧
        (¬ asked → w'.console = w.console)) ∧
    ∀ type failure w',
      withNvcc p source options arch filename type w = (.error (.compile failure), w') →
        failure.source = source ∧ failure.options = options ∧
        (asked → w'.console = w.console ++ echoed p w source filename type ++ Utf8.encode failure.dump) ∧
        (¬ asked → w'.console = w.console ++ echoed p w source filename type) ∧
        (FileTree.MakesFresh p.makeTemporary → w.files.Sound → '/' ∉ (fileStem filename).toList →
          echoed p w source filename type = []) := by
  intro w asked debug
  have decided : w.settings.dumpsSource w.environment = true ↔ asked :=
    Settings.dumpsSource_foldl_configure_iff changes
  have written {failure : Failure} : (asked →
      reported (w.settings.dumpsSource w.environment) failure = Utf8.encode failure.dump) ∧
      (¬ asked → reported (w.settings.dumpsSource w.environment) failure = []) :=
    ⟨fun h => if_pos (decided.2 h), fun h => if_neg fun h' => h (decided.1 h')⟩
  constructor
  · intro failure w' refused
    obtain ⟨text, given, console⟩ := withNvrtc_eq_error refused
    refine ⟨text, given, fun h => ?_, fun h => ?_⟩
    · rw [console, written.1 h]
    · rw [console, written.2 h, List.append_nil]
  · intro type failure w' refused
    obtain ⟨text, given, console⟩ := withNvcc_eq_error refused
    refine ⟨text, given, fun h => ?_, fun h => ?_, echoed_eq_nil⟩
    · rw [console, written.1 h]
    · rw [console, written.2 h, List.append_nil]

/-- A platform whose compilers refuse every source. -/
def refusingPlatform : Platform Unit where
  driver := fun _ _ _ s => (.error .notInitialized, s)
  nvrtc := fun c s => (match c with
    | .create .. => .ok 1
    | .destroy _ => .ok ()
    | .log _ => .ok "no"
    | _ => .error (.code .compilation), s)
  run := fun _ files => .ok (⟨.exited 2, [], []⟩, files)
  makeTemporary := FileTree.makeNumbered

/-- The variable is set to octets. -/
def setDump (octets : Bytes) : Settings.Change := .assign Settings.dumpVariable (some octets)

/-- The flag is stored while the variable asks for dumps, and then the variable is no longer text. -/
def garbledHistory : List Settings.Change :=
  [setDump (Utf8.encode "\t+0001 "), .reload, setDump [0xFF]]

/-- The same, and then the variable is a number again. -/
def numberHistory : List Settings.Change := garbledHistory ++ [setDump (Utf8.encode "2")]

/-- What was stored counts while the variable is not text, and no longer when it is a number again. -/
theorem dumped_as_asked_histories :
    (∃ failure w', withNvrtc refusingPlatform "s" ["-G"] "70" "k.cu"
        (garbledHistory.foldl World.configure fileWorld) = (.error (.compile failure), w') ∧
      failure.source = "s" ∧ w'.console = Utf8.encode failure.dump) ∧
    (∃ failure w', withNvcc refusingPlatform "s" ["-G"] "70" "k.cu" .ptx
        (numberHistory.foldl World.configure fileWorld) = (.error (.compile failure), w') ∧
      failure.options = ["-G"] ∧ w'.console = []) := by
  have unread : Utf8.decode? [0xFF] = none := by decide +kernel
  have garbled : ∀ text, [0xFF] ≠ Utf8.encode text := fun text same => by
    rw [same, Utf8.decode?_encode] at unread
    cases unread
  have asked : Settings.AsksForDump fileWorld garbledHistory.reverse :=
    Or.inr ⟨Or.inr (Or.inr ⟨_, rfl, garbled⟩), "\t+0001 ", rfl, 3, Or.inr (by decide)⟩
  have two : Environment.flag "2" ≠ true := by decide +kernel
  have unasked : ¬ Settings.AsksForDump fileWorld numberHistory.reverse := by
    rintro (yes | ⟨nothing, -⟩)
    · exact two (Environment.flag_eq_true_iff.2 (Environment.saysYes_encode.1 yes))
    · exact absurd (Environment.saysNothing_encode.1 nothing) (by decide)
  have nvrtc :=
    (dumped_as_asked refusingPlatform fileWorld garbledHistory "s" "70" "k.cu" ["-G"]).1
  have nvcc :=
    (dumped_as_asked refusingPlatform fileWorld numberHistory "s" "70" "k.cu" ["-G"]).2
  constructor
  · obtain ⟨failure, w', refused⟩ : ∃ failure w', withNvrtc refusingPlatform "s" ["-G"] "70" "k.cu"
        (garbledHistory.foldl World.configure fileWorld) = (.error (.compile failure), w') :=
      ⟨_, _, rfl⟩
    obtain ⟨source, -, console, -⟩ := nvrtc failure w' refused
    exact ⟨failure, w', refused, source, console asked⟩
  · obtain ⟨failure, w', refused⟩ : ∃ failure w', withNvcc refusingPlatform "s" ["-G"] "70" "k.cu" .ptx
        (numberHistory.foldl World.configure fileWorld) = (.error (.compile failure), w') :=
      ⟨_, _, rfl⟩
    obtain ⟨-, options, -, console, -⟩ := nvcc .ptx failure w' refused
    exact ⟨failure, w', refused, options, console unasked⟩

end Compile

end GpuDriver
