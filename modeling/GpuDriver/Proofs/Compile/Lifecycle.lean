import GpuDriver.Proofs.Compile.Translated

/-!
# The life of a program

The library makes a program of a source, compiles it, and asks for its result or, if it was refused, for
its log. Since the log of a refused program says something, so does the failure that the library reports
(`Compile.withNvrtc_of_refused`). The main result says all that is shown of a program, in any run
(`InProcess.Compiler.program_lifecycle`).
-/

namespace GpuDriver

open Owned InProcess

/-! ### The message of a failure -/

/-- Every code has a name that says something. -/
theorem Nvrtc.Code.isBlankText_name (code : Nvrtc.Code) : Text.isBlankText code.name = false := by
  have named : ∀ e ∈ known, Text.isBlankText e.2 = false := by decide +kernel
  rw [name]
  rcases found : known.lookup code with _ | text
  · decide
  · obtain ⟨front, back, split, -⟩ := List.lookup_eq_some_iff.1 found
    exact named (code, text) (split ▸ List.mem_append_right _ List.mem_cons_self)

namespace Compile

variable {ν σ : Type} {system : System} {w w₁ w₂ : World (Bench ν)} {program : Owned.Program}
  {options : List String} {source filename : String} {e : Nvrtc.Error}

theorem octets_eq_ok {code : Nvrtc.Code} {text : String} {b : Bytes}
    (h : Nvrtc.octets code text = .ok b) : Utf8.encode text = b := by
  unfold Nvrtc.octets at h
  split at h
  · cases h
  · exact Except.ok.inj h

theorem octets_eq_error {code : Nvrtc.Code} {text : String}
    (h : Nvrtc.octets code text = .error e) : e = .ofCode code := by
  unfold Nvrtc.octets at h
  split at h
  · exact (Except.error.inj h).symm
  · cases h

theorem mapM_octets_eq_error {code : Nvrtc.Code} {texts : List String}
    (h : texts.mapM (Nvrtc.octets code) = .error e) : e = .ofCode code := by
  induction texts with
  | nil => cases h
  | cons text rest ih =>
    rw [List.mapM_cons] at h
    rcases hfirst : Nvrtc.octets code text with e' | first
    · rw [hfirst] at h
      exact Except.error.inj h ▸ octets_eq_error hfirst
    · rcases hrest : rest.mapM (Nvrtc.octets code) with e' | others
      · rw [hfirst, hrest] at h
        exact ih (hrest.trans h)
      · rw [hfirst, hrest] at h
        cases h

/-- A program that was created on the in-process runtime compiler is alive and was never compiled. -/
theorem get?_of_create
    (created : Owned.Program.create (Platform.inProcess system) source filename w = (.ok program, w₁)) :
    w₁.native.compiler.programs.get? program.handle = some { source, name := filename } := by
  obtain ⟨sourceOctets, w', checked, rest⟩ := Act.bind_eq_ok_iff.1 created
  obtain ⟨hsource, rfl⟩ := Act.ofExcept_eq_ok_iff.1 checked
  obtain ⟨nameOctets, w', checked, rest⟩ := Act.bind_eq_ok_iff.1 rest
  obtain ⟨hname, rfl⟩ := Act.ofExcept_eq_ok_iff.1 checked
  obtain ⟨p, w', called, rest⟩ := Act.bind_eq_ok_iff.1 rest
  obtain ⟨rfl, rfl⟩ := Act.pure_eq_ok_iff.1 rest
  obtain ⟨made, rfl⟩ := Platform.callNvrtc_eq_ok_iff.1 called
  obtain ⟨-, -, text, read, alive⟩ := InProcess.Compiler.create_eq_ok made
  obtain rfl := octets_eq_ok hsource
  obtain rfl := octets_eq_ok hname
  obtain rfl : source = text := Option.some.inj ((Utf8.decode?_encode source).symm.trans read)
  rw [Utf8.decodeLossy_encode] at alive
  exact alive

theorem mapM_octets_eq_ok {code : Nvrtc.Code} {texts : List String} {bs : List Bytes}
    (h : texts.mapM (Nvrtc.octets code) = .ok bs) : texts.map Utf8.encode = bs := by
  induction texts generalizing bs with
  | nil => exact Except.ok.inj h
  | cons text rest ih =>
    rw [List.mapM_cons] at h
    obtain ⟨first, hfirst, h⟩ := InProcess.bind_eq_ok_iff.1 h
    obtain ⟨others, hothers, h⟩ := InProcess.bind_eq_ok_iff.1 h
    obtain rfl := InProcess.pure_eq_ok_iff.1 h
    rw [List.map_cons, octets_eq_ok hfirst, ih hothers]

/-- **A source that was compiled** was compiled to its translation for the architecture that the options
name last. -/
theorem withNvrtc_eq_ok {arch text : String} {w' : World (Bench ν)}
    (h : withNvrtc (Platform.inProcess system) source options arch filename w = (.ok text, w')) :
    ∃ target, InProcess.Compiler.lastArchitecture? (nvrtcOptions w.settings options arch) = some target ∧
      Source.translate source target = .ok text := by
  obtain ⟨settings, w₁, looking, h₁⟩ := Act.bind_eq_ok_iff.1 h
  obtain ⟨rfl, rfl⟩ := Act.look_eq_ok_iff.1 looking
  obtain ⟨program, w₁, creating, h₂⟩ := Act.bind_eq_ok_iff.1 h₁
  have alive := get?_of_create (Act.mapError_eq_ok_iff.1 creating)
  obtain ⟨w₂, compiling, -⟩ := Act.thenClean_eq_ok_iff.1 h₂
  obtain ⟨answer, w₃, attempting, h₃⟩ := Act.bind_eq_ok_iff.1 compiling
  have compiled := Act.attempt_eq_ok_iff.1 attempting
  cases answer with
  | error e => cases e <;> cases h₃
  | ok u =>
    obtain ⟨octets, w₄, giving, asking⟩ := Act.bind_eq_ok_iff.1 compiled
    obtain ⟨given, rfl⟩ := Act.ofExcept_eq_ok_iff.1 giving
    obtain ⟨answered, rfl⟩ := Platform.callNvrtc_eq_ok_iff.1 asking
    obtain ⟨ptx, w₅, reading, h₄⟩ := Act.bind_eq_ok_iff.1 h₃
    obtain ⟨read, rfl⟩ := Platform.callNvrtc_eq_ok_iff.1 (Act.mapError_eq_ok_iff.1 reading)
    obtain ⟨program', translated, programs, -⟩ := InProcess.Compiler.compiled_of_get? alive octets
    have answered : (w₁.native.compiler.compile program.handle octets).1 = .ok () := answered
    rw [answered] at translated
    have kept : (w₁.native.compiler.compile program.handle octets).2.programs.get? program.handle =
        some program' := by
      rw [programs, Table.get?_insert_self]
    have names : octets.map Utf8.decodeLossy = nvrtcOptions w.settings options arch :=
      mapM_octets_eq_ok given ▸ Utf8.map_decodeLossy_encode _
    cases translated with
    | @done target text' named translated =>
      have read : .ok (Utf8.encode text') = (Except.ok ptx : Except Nvrtc.Fault Bytes) :=
        (InProcess.Compiler.ptx_of_get? kept rfl).symm.trans read
      obtain rfl := Except.ok.inj read
      rw [Utf8.decode?_encode] at h₄
      obtain ⟨rfl, -⟩ := Act.pure_eq_ok_iff.1 h₄
      exact ⟨target, names ▸ named, translated⟩

/-- A message says something if the error does. -/
theorem isBlankText_refusalMessage (log : Except Nvrtc.Error String)
    (named : Text.isBlankText e.message = false) : Text.isBlankText (refusalMessage log e) = false := by
  unfold refusalMessage
  dsimp only
  split
  · exact named
  · rename_i logged
    exact eq_false_of_ne_true logged

theorem refusalMessage_of_ok {log : String} (logged : Text.isBlankText log = false) :
    refusalMessage (.ok log) e = log := by
  simp [refusalMessage, Except.toOption, logged]

/-- What a refused compilation leaves to be reported: an error with a name, and, unless the compiler was
not even asked, a log that says something. -/
theorem refused_of_compile {kept : InProcess.Program}
    (alive : w₁.native.compiler.programs.get? program.handle = some kept)
    (refused : program.compile (Platform.inProcess system) options w₁ = (.error e, w₂))
    (whole : e ≠ .crash) : Text.isBlankText e.message = false ∧
      ∃ log, w₂.native.compiler.log program.handle = .ok log ∧
        ((∀ option ∈ options, '\x00' ∉ option.toList) → Text.isBlankText log = false) := by
  rcases given : options.mapM (Nvrtc.octets .invalidOption) with e' | octets
  · obtain ⟨rfl, rfl⟩ : e' = e ∧ w₁ = w₂ := by
      simpa using (Act.bind_of_error (Act.ofExcept_of_error given)).symm.trans refused
    rw [mapM_octets_eq_error given]
    refine ⟨Nvrtc.Code.isBlankText_name _, kept.log, by simp only [InProcess.Compiler.log, alive],
      fun clean => ?_⟩
    cases given.symm.trans (mapM_octets clean)
  · have asked := (Act.bind_of_ok (Act.ofExcept_of_ok given)).symm.trans refused
    obtain ⟨fault, answered, rfl, rfl⟩ := Platform.callNvrtc_eq_error_iff.1 asked
    obtain ⟨program', compiled, programs, -⟩ := InProcess.Compiler.compiled_of_get? alive octets
    have answered : (w₁.native.compiler.compile program.handle octets).1 = .error fault := answered
    rw [answered] at compiled
    cases compiled with
    | @refused code log reason =>
      have left : (w₁.native.compiler.compile program.handle octets).2.log program.handle =
          .ok log := by
        simp only [InProcess.Compiler.log, programs, Table.get?_insert_self]
      exact ⟨Nvrtc.Code.isBlankText_name _, log, left, fun _ => reason⟩
    | crashed => exact absurd rfl whole

/-- A refused program is reported with its log, or with the name of the error. -/
theorem compileProgram_of_refused {p : Platform σ} {w w' w'' : World σ} {log : String}
    (refused : program.compile p options w = (.error e, w'))
    (logged : program.log p w' = (.ok log, w'')) (whole : e ≠ .crash) :
    ∃ w₃, compileProgram p program source filename options w = (.error (.compile {
      compiler := .nvrtc, message := refusalMessage (.ok log) e, source, name := filename, options }),
        w₃) := by
  cases e with
  | crash => exact absurd rfl whole
  | _ =>
    exact ⟨_, (Act.bind_of_ok (Act.attempt_of_error refused)).trans
      ((Act.bind_of_ok (Act.attempt_of_ok logged)).trans rfl)⟩

/-- A source that is refused, with a log that can be read, is a compilation that failed. -/
theorem withNvrtc_of_log {p : Platform σ} {w w₁ w₂ w₃ : World σ} {arch log : String}
    (created : Owned.Program.create p source filename w = (.ok program, w₁))
    (refused : program.compile p (nvrtcOptions w.settings options arch) w₁ = (.error e, w₂))
    (logged : program.log p w₂ = (.ok log, w₃)) (whole : e ≠ .crash) :
    ∃ w', withNvrtc p source options arch filename w = (.error (.compile {
      compiler := .nvrtc, message := refusalMessage (.ok log) e, source, name := filename
      options := nvrtcOptions w.settings options arch }), w') := by
  obtain ⟨w₄, failed⟩ : ∃ w₄, compileProgram p program source filename
      (nvrtcOptions w.settings options arch) w₁ = (.error (.compile {
        compiler := .nvrtc, message := refusalMessage (.ok log) e, source, name := filename
        options := nvrtcOptions w.settings options arch }), w₄) :=
    compileProgram_of_refused refused logged whole
  refine ⟨program.drop p w₄, ?_⟩
  refine (Act.bind_of_ok (Act.look_eq _)).trans ?_
  refine (Act.bind_of_ok (Act.mapError_of_ok created)).trans ?_
  exact Act.thenClean_of_error failed

variable (system) in
/-- **A source that is refused** is reported with a message that says something. It is the log of the
program, unless the runtime compiler was not even asked to compile it. -/
theorem withNvrtc_of_refused {arch : String}
    (created : Owned.Program.create (Platform.inProcess system) source filename w = (.ok program, w₁))
    (refused : program.compile (Platform.inProcess system) (nvrtcOptions w.settings options arch) w₁ =
      (.error e, w₂))
    (whole : e ≠ .crash) : ∃ failure w',
      withNvrtc (Platform.inProcess system) source options arch filename w =
        (.error (.compile failure), w') ∧ Text.isBlankText failure.message = false ∧
      ((∀ option ∈ nvrtcOptions w.settings options arch, '\x00' ∉ option.toList) →
        w₂.native.compiler.log program.handle = .ok failure.message) := by
  obtain ⟨named, log, logged, reason⟩ := refused_of_compile (get?_of_create created) refused whole
  have read : program.log (Platform.inProcess system) w₂ = (.ok log, w₂) :=
    Platform.callNvrtc_of_step (congrArg (·, w₂.native.compiler) logged)
  obtain ⟨w', reported⟩ := withNvrtc_of_log created refused read whole
  refine ⟨_, w', reported, isBlankText_refusalMessage (.ok log) named, fun clean => ?_⟩
  exact logged.trans (congrArg Except.ok (refusalMessage_of_ok (reason clean)).symm)

end Compile

namespace InProcess.Compiler

open Compile in
/-- **The life of a program.** In any run of the runtime compiler, whatever is called in whatever order on
however many programs: a program is alive from its creation to its destruction, and of one that is not
alive the compiler knows nothing. Calls that are not about a program leave it as it is. A program that is
alive has the source and the name that it was created with. If it was never compiled, it has no result and
an empty log. After its last compilation it has a result exactly if that succeeded, which is the
translation of its source for the architecture that the options name last; and its log is empty exactly if
that succeeded, provided that it did not break off. So when the library compiles a source and the runtime
compiler refuses it, the failure has a message that is not blank, which is the log of the program unless
an option held a NUL. -/
theorem program_lifecycle (version : Int × Int) (architectures : Option (List Int))
    (calls : List Nvrtc.Call) (p : Handle) :
    let start : Compiler := { version, architectures }
    let c := start.run calls
    (p ∈ c.programs.keys → ∃ front source name back, calls = front ++ .create source name :: back ∧
      ((start.run front).create source name).1 = .ok p) ∧
    (p ∉ c.programs.keys → ∀ call : Nvrtc.Call, call.program? = some p →
      (step call c).1 = .error (.code .invalidProgram)) ∧
    (p ∈ c.programs.keys → ∀ call : Nvrtc.Call, call.program? ≠ some p →
      (step call c).2.programs.get? p = c.programs.get? p) ∧
    (∀ front source name back, calls = front ++ .create source name :: back →
      ((start.run front).create source name).1 = .ok p →
      (p ∈ c.programs.keys ↔ .destroy p ∉ back) ∧
      (p ∈ c.programs.keys → ∃ text, Utf8.decode? source = some text ∧
        (∃ program, c.programs.get? p = some program ∧ program.source = text ∧
          program.name = Utf8.decodeLossy name) ∧
        ((∀ options, .compile p options ∉ back) →
          c.ptx p = .error (.code .invalidProgram) ∧ c.log p = .ok "") ∧
        ∀ mid options rest, back = mid ++ .compile p options :: rest →
          (∀ options, .compile p options ∉ rest) →
          let answer := ((start.run (front ++ .create source name :: mid)).compile p options).1
          (answer = .ok () → ∃ arch ptx,
            lastArchitecture? (options.map Utf8.decodeLossy) = some arch ∧
              Source.translate text arch = .ok ptx ∧ c.ptx p = .ok (Utf8.encode ptx)) ∧
          (answer ≠ .ok () → c.ptx p = .error (.code .invalidProgram)) ∧
          (answer ≠ .error .crash → ∃ log, c.log p = .ok log ∧ (log = "" ↔ answer = .ok ())))) ∧
    ∀ {ν : Type} (system : System) (w w₁ w₂ : World (Bench ν)) (source filename arch : String)
      (options : List String) (program : Owned.Program) (e : Nvrtc.Error),
      Owned.Program.create (Platform.inProcess system) source filename w = (.ok program, w₁) →
      program.compile (Platform.inProcess system) (nvrtcOptions w.settings options arch) w₁ =
        (.error e, w₂) → e ≠ .crash →
      ∃ failure w', withNvrtc (Platform.inProcess system) source options arch filename w =
          (.error (.compile failure), w') ∧ Text.isBlankText failure.message = false ∧
        ((∀ option ∈ nvrtcOptions w.settings options arch, '\x00' ∉ option.toList) →
          w₂.native.compiler.log program.handle = .ok failure.message) := by
  intro start c
  have numbered (calls : List Nvrtc.Call) : (start.run calls).Numbered :=
    (numbered_fresh version architectures).run calls
  refine ⟨exists_create_of_mem_run rfl, fun dead call => step_of_not_mem dead,
    fun alive call other => ?_, fun front source name back split created => ?_,
    fun system _ _ _ _ _ _ _ _ _ => withNvrtc_of_refused system⟩
  · refine (revision_step c call).get?_eq (numbered calls) alive ?_ ?_
    · rintro rfl
      exact other rfl
    · rintro options rfl
      exact other rfl
  · obtain ⟨-, -, text, read, made⟩ := create_eq_ok created
    let c₁ := ((start.run front).create source name).2
    have numbered₁ : c₁.Numbered := (numbered front).step (.create source name)
    have after (calls : List Nvrtc.Call) :
        start.run (front ++ .create source name :: calls) = c₁.run calls := run_append ..
    have now : c = c₁.run back := (congrArg start.run split).trans (after back)
    have lives : p ∈ c.programs.keys ↔ .destroy p ∉ back := by
      rw [now]
      exact mem_run_iff numbered₁ (Table.mem_keys.2 ⟨_, made⟩) back
    refine ⟨lives, fun alive => ?_⟩
    have spared : .destroy p ∉ back := lives.1 alive
    rw [now]
    refine ⟨text, read, kept_run numbered₁ made spared, fun never => ?_, ?_⟩
    · have untouched := get?_run numbered₁ made spared never
      exact ⟨ptx_of_none untouched rfl, log_of_get? untouched⟩
    · rintro mid options rest rfl uncompiled
      obtain ⟨before, later⟩ := not_or.1 (mt List.mem_append.2 spared)
      have later : .destroy p ∉ rest := fun h => later (List.mem_cons_of_mem _ h)
      obtain ⟨program, alive, source_eq, -⟩ := kept_run numbered₁ made before
      have source_eq : program.source = text := source_eq
      obtain ⟨program', compiled, left⟩ :=
        compiled_run (numbered₁.run mid) alive options later uncompiled
      rw [← run_append] at left
      rw [after]
      refine ⟨fun succeeded => ?_, fun failed => ?_, fun whole => ?_⟩
      · rw [succeeded] at compiled
        cases compiled with
        | done named translated =>
          exact ⟨_, _, named, source_eq ▸ translated, ptx_of_get? left rfl⟩
      · exact ptx_of_none left (compiled.ptx_eq_none_iff.2 failed)
      · exact ⟨program'.log, log_of_get? left, compiled.log_eq_empty_iff whole⟩

open Compile in
/-- A program is compiled again, in vain, after another was destroyed; and a source is refused. -/
theorem program_lifecycle_recompiled :
    let start : Compiler := { version := (12, 4), architectures := none }
    let option (text : String) : Bytes := Utf8.encode text
    let good : List Nvrtc.Call := [.create [] [], .create [] [],
      .compile 0x7010 [option "-arch=compute_70", option "-arch=compute_80"], .destroy 0x7020]
    let bad : List Nvrtc.Call := good ++ [.compile 0x7010 [option "-arch=sm_80"]]
    let w : World (Bench Unit) := { native := Bench.current }
    (∃ ptx, Source.translate "" 80 = .ok ptx ∧ (start.run good).ptx 0x7010 = .ok (Utf8.encode ptx)) ∧
      (start.run good).log 0x7010 = .ok "" ∧
      (start.run bad).ptx 0x7010 = .error (.code .invalidProgram) ∧
      (∃ log, (start.run bad).log 0x7010 = .ok log ∧ log ≠ "") ∧
      (step (.log 0x7020) (start.run good)).1 = .error (.code .invalidProgram) ∧
      ∃ failure w', withNvrtc (Platform.inProcess .bare) "#error" [] "80" "a.cu"
        w = (.error (.compile failure), w') ∧ Text.isBlankText failure.message = false := by
  intro start option good bad w
  obtain ⟨-, -, -, life, -⟩ := program_lifecycle (12, 4) none good 0x7010
  obtain ⟨text, read, -, -, last⟩ := (life [] [] [] _ rfl rfl).2 (by decide +kernel)
  obtain ⟨done, -, logged⟩ := last [.create [] []] _ [.destroy 0x7020] rfl (by simp)
  obtain ⟨arch, ptx, named, translated, found⟩ := done (by decide +kernel)
  obtain ⟨log, shown, empty⟩ := logged (by decide +kernel)
  obtain rfl : text = "" := by
    have : Utf8.decode? [] = some "" := by decide +kernel
    exact Option.some.inj (read.symm.trans this)
  obtain rfl : arch = 80 := by
    have : lastArchitecture? (["-arch=compute_70", "-arch=compute_80"].map
      fun text => Utf8.decodeLossy (Utf8.encode text)) = some 80 := by decide +kernel
    exact Option.some.inj (named.symm.trans this)
  obtain rfl : log = "" := empty.2 (by decide +kernel)
  obtain ⟨-, -, -, life, -⟩ := program_lifecycle (12, 4) none bad 0x7010
  obtain ⟨_, -, -, -, last⟩ := (life [] [] [] _ rfl rfl).2 (by decide +kernel)
  obtain ⟨-, gone, logged⟩ := last (good.drop 1) [option "-arch=sm_80"] [] rfl (by simp)
  obtain ⟨log', shown', empty'⟩ := logged (by decide +kernel)
  have failed : log' ≠ "" := fun h => absurd (empty'.1 h) (by decide +kernel)
  obtain ⟨-, dead, -, -, report⟩ := program_lifecycle (12, 4) none good 0x7020
  let p : Platform (Bench Unit) := Platform.inProcess .bare
  let w₁ := (Owned.Program.create p "#error" "a.cu" w).2
  obtain ⟨failure, w', reported, message, -⟩ := report .bare w w₁ _
    "#error" "a.cu" "80" [] ⟨0x7010, "a.cu"⟩ (.ofCode .compilation)
    (Prod.ext (by decide +kernel) rfl) (Prod.ext (by decide +kernel) rfl) (by decide)
  exact ⟨⟨ptx, translated, found⟩, shown, gone (by decide +kernel), ⟨log', shown', failed⟩,
    dead (by decide +kernel) (.log 0x7020) rfl, failure, w', reported, message⟩

end InProcess.Compiler

end GpuDriver
