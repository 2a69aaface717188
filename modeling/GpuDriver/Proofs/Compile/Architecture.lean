import GpuDriver.Proofs.Compile.Diagnostics

/-!
# The architecture that is compiled for

The name of a device's architecture is made of the two numbers of its capability, and the default one is
computed from them; both are the same numeral, since the second number has one digit. With a runtime
compiler the default is held down to the newest architecture that the compiler tells of (`IsNewest`). Its
name is handed over as an option and read back as the same number, which is then compiled for: the options
before it do not name an architecture, and those behind it ask for debug information only.
-/

namespace GpuDriver

open InProcess

/-! ### The newest architecture -/

/-- The newest architecture of a runtime compiler is the greatest that it tells of. One that does not tell,
or tells of none, goes up to 50 before its version 9 and up to 70 from then on. -/
def IsNewest (known : Option (List Int)) (major newest : Int) : Prop :=
  (∃ archs, known = some archs ∧ newest ∈ archs ∧ ∀ arch ∈ archs, arch ≤ newest) ∨
    (known = none ∨ known = some []) ∧ newest = if major < 9 then 50 else 70

namespace Nvrtc

theorem greatest?_eq_max? (ks : List Int) : greatest? ks = ks.max? := by
  cases ks with
  | nil => rfl
  | cons k rest => exact List.max?_cons'.symm

theorem greatest?_eq_some_iff {ks : List Int} {k : Int} :
    greatest? ks = some k ↔ k ∈ ks ∧ ∀ j ∈ ks, j ≤ k := by
  rw [greatest?_eq_max?, List.max?_eq_some_iff]

theorem greatest?_eq_none_iff {ks : List Int} : greatest? ks = none ↔ ks = [] := by
  rw [greatest?_eq_max?, List.max?_eq_none_iff]

/-- A runtime compiler answers when it is asked for its architectures, and for its version if it tells of
none. -/
def Tells {σ : Type} (p : Platform σ) (w : World σ) (known : Option (List Int)) (major : Int) : Prop :=
  ∃ w₁, p.callNvrtc .architectures w = (.ok known, w₁) ∧
    (known = none ∨ known = some [] → ∃ minor, (p.callNvrtc .version w₁).1 = .ok (major, minor))

/-- **The newest architecture is found** if the compiler answers. -/
theorem fst_maxArchitecture {σ : Type} {p : Platform σ} {w : World σ} {known : Option (List Int)}
    {major newest : Int} (tells : Tells p w known major) (newer : IsNewest known major newest) :
    (maxArchitecture p w).1 = .ok newest := by
  obtain ⟨w₁, told, version⟩ := tells
  have answered : maxArchitecture p w = _ := Act.bind_of_ok told
  rw [answered]
  obtain ⟨archs, rfl, greatest⟩ | ⟨none, rfl⟩ := newer
  · rw [Option.bind_some, greatest?_eq_some_iff.2 greatest]
    rfl
  · obtain ⟨minor, version⟩ := version none
    have unknown : known.bind greatest? = Option.none := by
      obtain rfl | rfl := none <;> rfl
    rw [unknown]
    exact Act.fst_bind_pure_eq_ok_iff.2 ⟨_, version, rfl⟩

end Nvrtc

theorem InProcess.Compiler.isNewest_newest (c : Compiler) :
    IsNewest c.architectures c.version.1 c.newest := by
  unfold newest
  split
  · rename_i arch told
    obtain ⟨archs, known, greatest⟩ := Option.bind_eq_some_iff.1 told
    exact Or.inl ⟨archs, known, Nvrtc.greatest?_eq_some_iff.1 greatest⟩
  · rename_i untold
    refine Or.inr ⟨?_, rfl⟩
    cases known : c.architectures with
    | none => exact Or.inl rfl
    | some archs =>
      rw [known, Option.bind_some, Nvrtc.greatest?_eq_none_iff] at untold
      exact Or.inr (congrArg some untold)

/-! ### Options without an architecture -/

namespace InProcess.Compiler

/-- The log of an option that the compiler does not know. -/
def unrecognized (option : String) : String := "nvrtc: error: unrecognized option " ++ option

theorem unrecognized_ne_badArchitecture (option value : String) :
    unrecognized option ≠ badArchitecture value := by
  intro same
  -- both logs begin alike, up to the fifteenth character
  have option_first : "nvrtc: error: unrecognized option ".toList.take 15 =
    "nvrtc: error: u".toList := by decide
  have value_first : "nvrtc: error: invalid value for -arch: ".toList.take 15 =
    "nvrtc: error: i".toList := by decide
  have begun : ("nvrtc: error: unrecognized option ".toList ++ option.toList).take 15 =
      ("nvrtc: error: invalid value for -arch: ".toList ++ value.toList).take 15 := by
    rw [← String.toList_append, ← String.toList_append]
    exact congrArg (fun log => log.toList.take 15) same
  rw [List.take_append_of_le_length (by decide), List.take_append_of_le_length (by decide),
    option_first, value_first] at begun
  exact absurd begun (by decide)

/-- Options that name no architecture are passed over, up to the first that does not begin with a hyphen. -/
theorem namedArchitecture_append {options : List String}
    (unnamed : ∀ option ∈ options, architectureValue? option = none) (arch : Int) (rest : List String) :
    (∀ option ∈ options, option.toList.head? = some '-') ∧
        namedArchitecture arch (options ++ rest) = namedArchitecture arch rest ∨
      ¬ (∀ option ∈ options, option.toList.head? = some '-') ∧
        ∃ option, namedArchitecture arch (options ++ rest) = .error (unrecognized option) := by
  induction options with
  | nil => exact Or.inl ⟨by simp, rfl⟩
  | cons option others ih =>
    obtain ⟨first, unnamed⟩ := List.forall_mem_cons.1 unnamed
    rw [List.forall_mem_cons, List.cons_append, namedArchitecture, first]
    by_cases dashed : option.toList.head? = some '-'
    · rw [if_pos dashed]
      simpa [dashed] using ih unnamed
    · rw [if_neg dashed]
      exact Or.inr ⟨fun h => dashed h.1, option, rfl⟩

theorem namedArchitecture_debugOptions (settings : Settings) (arch : Int) :
    namedArchitecture arch (Compile.debugOptions settings) = .ok arch := by
  unfold Compile.debugOptions
  split <;> rfl

/-- The compiler tells of its architectures, and this one is not among them. -/
def IsUnknown (c : Compiler) (arch : Int) : Prop :=
  ∃ archs, c.architectures = some archs ∧ arch ∉ archs

/-- What the log says of an architecture that is unknown. -/
def unknownArchitecture (arch : Int) : String :=
  badArchitecture ("compute_" ++ Text.signedDecimal arch)

theorem isBlankText_unknownArchitecture (arch : Int) :
    Text.isBlankText (unknownArchitecture arch) = false := isBlankText_badArchitecture _

section Target

variable {c : Compiler} {settings : Settings} {options : List String} {arch : Int}
  (unnamed : ∀ option ∈ options, architectureValue? option = none)

include unnamed

/-- An option that does not begin with a hyphen is refused before an architecture is looked at. -/
theorem targetArchitecture_of_unrecognized (name : String)
    (other : ¬ ∀ option ∈ options, option.toList.head? = some '-') : ∃ option,
      c.targetArchitecture (Compile.nvrtcOptions settings options name) =
        .error (unrecognized option) := by
  obtain ⟨dashed, -⟩ | ⟨-, option, refused⟩ := namedArchitecture_append unnamed defaultArchitecture
    (["-arch=compute_" ++ name] ++ Compile.debugOptions settings)
  · exact absurd dashed other
  · rw [← List.append_assoc] at refused
    exact ⟨option, by rw [targetArchitecture, Compile.nvrtcOptions, refused]⟩

variable (dashed : ∀ option ∈ options, option.toList.head? = some '-')
  (low : -0x80000000 ≤ arch) (high : arch < 0x80000000)

include dashed low high

/-- The options name the architecture of the library's own option. -/
theorem namedArchitecture_nvrtcOptions : namedArchitecture defaultArchitecture
    (Compile.nvrtcOptions settings options (Text.signedDecimal arch)) = .ok arch := by
  obtain ⟨-, named⟩ | ⟨other, -⟩ := namedArchitecture_append unnamed defaultArchitecture
    (["-arch=compute_" ++ Text.signedDecimal arch] ++ Compile.debugOptions settings)
  · have read : Text.int32? (Text.signedDecimal arch).toList = some arch :=
      Text.integer?_signedDecimal low high
    rw [Compile.nvrtcOptions, List.append_assoc, named, List.singleton_append,
      namedArchitecture_cons_name, read]
    exact namedArchitecture_debugOptions settings arch
  · exact absurd dashed other

theorem targetArchitecture_of_unknown (unknown : c.IsUnknown arch) :
    c.targetArchitecture (Compile.nvrtcOptions settings options (Text.signedDecimal arch)) =
      .error (unknownArchitecture arch) := by
  obtain ⟨archs, told, missing⟩ := unknown
  simp only [targetArchitecture, namedArchitecture_nvrtcOptions unnamed dashed low high, told]
  rw [if_neg (by simpa using missing), unknownArchitecture]

theorem targetArchitecture_of_known (known : ¬ c.IsUnknown arch) :
    c.targetArchitecture (Compile.nvrtcOptions settings options (Text.signedDecimal arch)) =
      .ok arch := by
  simp only [targetArchitecture, namedArchitecture_nvrtcOptions unnamed dashed low high]
  cases told : c.architectures with
  | none => rfl
  | some archs =>
    have listed : arch ∈ archs := Classical.byContradiction fun missing =>
      known ⟨archs, told, missing⟩
    exact if_pos (by simpa using listed)

end Target

section Compile

variable {c : Compiler} {q : Handle} {program : InProcess.Program} {options : List String} {arch : Int}
  {log : String} (alive : c.programs.get? q = some program)

include alive

/-- A program is not compiled with options that the compiler refuses. -/
theorem compile_of_refused (refused : c.targetArchitecture options = .error log) :
    c.compile q (options.map Utf8.encode) = (.error (.code .invalidOption), { c with
      lastOptions := options
      programs := c.programs.insert q { program with ptx := none, log } }) := by
  have refused : ({ c with lastOptions := options } : Compiler).targetArchitecture options =
    .error log := refused
  simp only [compile, Utf8.map_decodeLossy_encode, compileWith, alive, refused]
  rfl

/-- A source that the scanner of kernels breaks off at breaks off the compilation. -/
theorem fst_compile_of_torn (accepted : c.targetArchitecture options = .ok arch)
    (torn : Source.translate program.source arch = .error .torn) :
    (c.compile q (options.map Utf8.encode)).1 = .error .crash := by
  have accepted : ({ c with lastOptions := options } : Compiler).targetArchitecture options =
    .ok arch := accepted
  simp only [compile, Utf8.map_decodeLossy_encode, compileWith, alive, accepted, torn]

end Compile

end InProcess.Compiler

namespace Compile

/-! ### Compiling for an architecture -/

section Compiles

variable {ν : Type} {system : System} {w w₁ : World (Bench ν)} {source filename : String}
  {options : List String} {program : Owned.Program}

theorem not_mem_of_octets {code : Nvrtc.Code} {text : String} {b : Bytes}
    (h : Nvrtc.octets code text = .ok b) : '\x00' ∉ text.toList := by
  unfold Nvrtc.octets at h
  split at h
  · cases h
  · rename_i clean
    simpa using clean

/-- An option with a NUL is refused before the compiler is asked. -/
theorem compile_of_mem {option : String} (given : option ∈ options) (nul : '\x00' ∈ option.toList) :
    program.compile (Platform.inProcess system) options w₁ = (.error (.ofCode .invalidOption), w₁) := by
  refine Act.bind_of_error (Act.ofExcept_of_error ?_)
  cases read : options.mapM (Nvrtc.octets .invalidOption) with
  | error e => rw [mapM_octets_eq_error read]
  | ok octets =>
    obtain ⟨b, -, read⟩ := (Source.exists_of_mapM read).1 option given
    exact absurd nul (not_mem_of_octets read)

/-- Options without NULs are handed over to the compiler. -/
theorem compile_of_clean (clean : ∀ option ∈ options, '\x00' ∉ option.toList) :
    program.compile (Platform.inProcess system) options w₁ =
      ((w₁.native.compiler.compile program.handle (options.map Utf8.encode)).1.mapError .ofFault,
        w₁.withCompiler (w₁.native.compiler.compile program.handle (options.map Utf8.encode)).2) :=
  (Act.bind_of_ok (Act.ofExcept_of_ok (mapM_octets clean))).trans (Platform.callNvrtc_inProcess _)

/-- When a program has been created the compiler knows the same architectures as before. -/
theorem architectures_of_create
    (created : Owned.Program.create (Platform.inProcess system) source filename w = (.ok program, w₁)) :
    w₁.native.compiler.architectures = w.native.compiler.architectures := by
  obtain ⟨sourceOctets, w', checked, rest⟩ := Act.bind_eq_ok_iff.1 created
  obtain ⟨-, rfl⟩ := Act.ofExcept_eq_ok_iff.1 checked
  obtain ⟨nameOctets, w', checked, rest⟩ := Act.bind_eq_ok_iff.1 rest
  obtain ⟨-, rfl⟩ := Act.ofExcept_eq_ok_iff.1 checked
  obtain ⟨q, w', called, rest⟩ := Act.bind_eq_ok_iff.1 rest
  obtain ⟨rfl, rfl⟩ := Act.pure_eq_ok_iff.1 rest
  obtain ⟨-, rfl⟩ := Platform.callNvrtc_eq_ok_iff.1 called
  show (w.native.compiler.create sourceOctets nameOctets).2.architectures = _
  unfold InProcess.Compiler.create
  split <;> rfl

section Alive

variable {source' : InProcess.Program} {arch : Int} {log : String}
  (alive : w₁.native.compiler.programs.get? program.handle = some source')
  (clean : ∀ option ∈ options, '\x00' ∉ option.toList)

include alive

theorem log_of_get? :
    program.log (Platform.inProcess system) w₁ = (.ok source'.log, w₁) :=
  Platform.callNvrtc_of_step
    (congrArg (·, w₁.native.compiler) (InProcess.Compiler.log_of_get? alive))

theorem ptx_of_get? {text : String} (done : source'.ptx = some text) :
    program.ptx (Platform.inProcess system) w₁ = (.ok (Utf8.encode text), w₁) :=
  Platform.callNvrtc_of_step
    (congrArg (·, w₁.native.compiler) (InProcess.Compiler.ptx_of_get? alive done))

include clean

variable (system) in
/-- Options that the compiler refuses are refused, and the log says why. -/
theorem compile_refused (refused : w₁.native.compiler.targetArchitecture options = .error log) :
    let compiled := program.compile (Platform.inProcess system) options w₁
    compiled.1 = .error (.ofCode .invalidOption) ∧
      (program.log (Platform.inProcess system) compiled.2).1 = .ok log := by
  intro compiled
  let w₂ := w₁.withCompiler { w₁.native.compiler with
    lastOptions := options
    programs := w₁.native.compiler.programs.insert program.handle { source' with ptx := none, log } }
  have answered : compiled = (.error (.ofCode .invalidOption), w₂) := by
    refine (compile_of_clean clean).trans ?_
    rw [InProcess.Compiler.compile_of_refused alive refused]
    rfl
  have kept : w₂.native.compiler.programs.get? program.handle =
      some { source' with ptx := none, log } := Table.get?_insert_self ..
  rw [answered]
  exact ⟨rfl, congrArg Prod.fst (log_of_get? kept)⟩

variable (system) in
/-- With options that the compiler accepts, the source is translated for their architecture. -/
theorem compile_accepted (accepted : w₁.native.compiler.targetArchitecture options = .ok arch) :
    let compiled := program.compile (Platform.inProcess system) options w₁
    (∀ text, Source.translate source'.source arch = .ok text → compiled.1 = .ok () ∧
      (program.ptx (Platform.inProcess system) compiled.2).1 = .ok (Utf8.encode text)) ∧
    (∀ flaw, Source.translate source'.source arch = .error (.flaw flaw) →
      compiled.1 = .error (.ofCode .compilation)) ∧
    (Source.translate source'.source arch = .error .torn → compiled.1 = .error .crash) := by
  intro compiled
  have asked : compiled = _ := compile_of_clean clean
  refine ⟨fun text translated => ?_, fun flaw flawed => ?_, fun torn => ?_⟩
  · let w₂ := w₁.withCompiler { w₁.native.compiler with
      lastOptions := options
      programs := w₁.native.compiler.programs.insert program.handle
        { source' with ptx := some text, log := "" } }
    have answered : compiled = (.ok (), w₂) := by
      rw [asked, InProcess.Compiler.compile_of_translate alive accepted translated]
      rfl
    have kept : w₂.native.compiler.programs.get? program.handle =
        some { source' with ptx := some text, log := "" } := Table.get?_insert_self ..
    rw [answered]
    exact ⟨rfl, congrArg Prod.fst (ptx_of_get? kept rfl)⟩
  · rw [asked, InProcess.Compiler.compile_of_flaw alive accepted flawed]
    rfl
  · rw [asked]
    exact congrArg (Except.mapError _) (InProcess.Compiler.fst_compile_of_torn alive accepted torn)

end Alive

/-- What comes of compiling a program for an architecture, with the options of the user and those of the
library. It fails for the architecture, and the log says so, exactly if the user's options all begin with a
hyphen and hold no NUL, and the compiler tells of its architectures and this one is not among them. With
such options and otherwise it is a compilation for this architecture and no other. -/
def CompilesFor (system : System) (program : Owned.Program) (source : String) (options : List String)
    (arch : Int) (w w₁ : World (Bench ν)) : Prop :=
  let p := Platform.inProcess system
  let compiled := program.compile p (nvrtcOptions w.settings options (Text.signedDecimal arch)) w₁
  let accepted := ∀ option ∈ options, option.toList.head? = some '-' ∧ '\x00' ∉ option.toList
  let unknown := w.native.compiler.IsUnknown arch
  (compiled.1 = .error (.ofCode .invalidOption) ∧
      (program.log p compiled.2).1 = .ok (InProcess.Compiler.unknownArchitecture arch) ↔
    accepted ∧ unknown) ∧
  (accepted → ¬ unknown →
    (∀ text, Source.translate source arch = .ok text →
      compiled.1 = .ok () ∧ (program.ptx p compiled.2).1 = .ok (Utf8.encode text)) ∧
    (∀ flaw, Source.translate source arch = .error (.flaw flaw) →
      compiled.1 = .error (.ofCode .compilation)) ∧
    (Source.translate source arch = .error .torn → compiled.1 = .error .crash))

variable {arch : Int} (unnamed : ∀ option ∈ options,
    InProcess.Compiler.architectureValue? option = none)
  (low : -0x80000000 ≤ arch) (high : arch < 0x80000000)
  (created : Owned.Program.create (Platform.inProcess system) source filename w = (.ok program, w₁))

include unnamed low high created

/-- **A program is compiled for the architecture**, unless an option is refused first or the compiler does
not know the architecture. -/
theorem compiles_for : CompilesFor system program source options arch w w₁ := by
  unfold CompilesFor
  intro p compiled accepted unknown
  have alive := get?_of_create created
  have known : w₁.native.compiler.IsUnknown arch ↔ unknown := by
    unfold InProcess.Compiler.IsUnknown
    rw [architectures_of_create created]
    rfl
  have numeral : Text.int32? (Text.signedDecimal arch).toList = some arch :=
    Text.integer?_signedDecimal low high
  -- with a NUL the compiler is not asked; it reads all options before it looks the architecture up
  by_cases clean : ∀ option ∈ options, '\x00' ∉ option.toList
  · have given : ∀ option ∈ nvrtcOptions w.settings options (Text.signedDecimal arch),
        '\x00' ∉ option.toList := nvrtcOptions_clean_of_int32? numeral clean
    by_cases dashed : ∀ option ∈ options, option.toList.head? = some '-'
    · have fine : accepted := fun option ho => ⟨dashed option ho, clean option ho⟩
      by_cases missing : unknown
      · have answered := compile_refused system alive given
          (InProcess.Compiler.targetArchitecture_of_unknown unnamed dashed low high (known.2 missing))
        exact ⟨iff_of_true answered ⟨fine, missing⟩, fun _ h => absurd missing h⟩
      · have translated := compile_accepted system alive given
          (InProcess.Compiler.targetArchitecture_of_known unnamed dashed low high (mt known.1 missing))
        refine ⟨iff_of_false (fun ⟨refused, _⟩ => ?_) fun h => missing h.2, fun _ _ => translated⟩
        obtain ⟨done, flawed, torn⟩ := translated
        rcases result : Source.translate source arch with (flaw | _) | text
        · cases refused.symm.trans (flawed flaw result)
        · cases refused.symm.trans (torn result)
        · cases refused.symm.trans (done text result).1
    · obtain ⟨option, refused⟩ := InProcess.Compiler.targetArchitecture_of_unrecognized unnamed
        (Text.signedDecimal arch) dashed
      obtain ⟨-, logged⟩ := compile_refused system alive given refused
      have rejected : ¬ accepted := fun h => dashed fun option ho => (h option ho).1
      refine ⟨iff_of_false (fun ⟨_, log⟩ => ?_) fun h => rejected h.1, fun h => absurd h rejected⟩
      exact InProcess.Compiler.unrecognized_ne_badArchitecture _ _
        (Except.ok.inj (logged.symm.trans log))
  · have rejected : ¬ accepted := fun h => clean fun option ho => (h option ho).2
    refine ⟨iff_of_false (fun ⟨_, log⟩ => ?_) fun h => rejected h.1, fun h => absurd h rejected⟩
    obtain ⟨option, ho, nul⟩ : ∃ option ∈ options, '\x00' ∈ option.toList := by
      simpa using clean
    have unasked : compiled = (.error (.ofCode .invalidOption), w₁) :=
      compile_of_mem (List.mem_append_left _ (List.mem_append_left _ ho)) nul
    rw [unasked, log_of_get? alive] at log
    have empty : InProcess.Compiler.unknownArchitecture arch = "" := (Except.ok.inj log).symm
    have blank := InProcess.Compiler.isBlankText_unknownArchitecture arch
    rw [empty] at blank
    cases blank

omit created in
variable (system) in
/-- What is loaded fails to be compiled for an architecture that the compiler does not know. -/
theorem compileAndLoad_of_unknown {t : ThreadId} (cleanSource : '\x00' ∉ source.toList)
    (accepted : ∀ option ∈ options, option.toList.head? = some '-' ∧ '\x00' ∉ option.toList)
    (unknown : w.native.compiler.IsUnknown arch) :
    (compileAndLoad (Platform.inProcess system) t source options (some (Text.signedDecimal arch)) .nvrtc
      w).1 = .error (.compile {
        compiler := .nvrtc
        message := InProcess.Compiler.unknownArchitecture arch
        source
        name := "kern.cu"
        options := nvrtcOptions w.settings options (Text.signedDecimal arch) }) := by
  obtain ⟨program, w₁, created⟩ : ∃ program w₁,
      Owned.Program.create (Platform.inProcess system) source "kern.cu" w = (.ok program, w₁) :=
    ⟨_, _, create_of_not_mem cleanSource (by decide)⟩
  obtain ⟨refused, logged⟩ := (compiles_for unnamed low high created).1.2 ⟨accepted, unknown⟩
  obtain ⟨w', failed⟩ := withNvrtc_of_log created (Prod.ext refused rfl) (Prod.ext logged rfl)
    (by decide)
  rw [refusalMessage_of_ok (InProcess.Compiler.isBlankText_unknownArchitecture arch)] at failed
  have failed : compile (Platform.inProcess system) source options (Text.signedDecimal arch) "kern.cu"
    .nvrtc w = _ := Act.bind_of_error failed
  have answered : compileAndLoad (Platform.inProcess system) t source options
    (some (Text.signedDecimal arch)) .nvrtc w = _ := (Act.bind_of_ok rfl).trans (Act.bind_of_error failed)
  rw [answered]

end Compiles

/-! ### The architecture of the current device -/

/-- With the books of some run of the in-process driver, the thread has a current context that is alive, on
a device whose capability can be named by a numeral: the major number is positive, the minor one is a
digit, and ten times the one and the other fit a 32-bit number. -/
structure OnDevice {ν : Type} (w : World (Bench ν)) (t : ThreadId) (major minor : Int) : Prop where
  /-- The books are those of a run. -/
  books : ∃ devices capability es, w.native.driver = (State.fresh devices capability).run es
  /-- This is the capability of its devices. -/
  capability : w.native.driver.capability = (major, minor)
  /-- The thread has a current context that is alive. -/
  current : ∃ c, w.native.driver.current t = .ok c
  /-- The major number is positive. -/
  major_pos : 1 ≤ major
  /-- The minor number is a digit. -/
  minor_digit : 0 ≤ minor ∧ minor ≤ 9
  /-- The architecture fits a 32-bit number. -/
  fits : major * 10 + minor < 0x80000000

/-- A bench on which a thread has a current context on a device with this capability. -/
def deviceBench (major minor : Int) : Bench Unit where
  driver := (State.fresh 1 (major, minor)).run [⟨0, {}, .init 0⟩, ⟨0, {}, .createContext 0 ⟨0⟩⟩]
  vendor := ()

theorem onDevice_deviceBench {major minor : Int} (positive : 1 ≤ major)
    (digit : 0 ≤ minor ∧ minor ≤ 9) (fits : major * 10 + minor < 0x80000000) :
    OnDevice { native := deviceBench major minor } 0 major minor :=
  ⟨⟨1, (major, minor), _, rfl⟩, rfl, ⟨0x1100, rfl⟩, positive, digit, fits⟩

section Told

variable {σ : Type} {p : Platform σ} {t : ThreadId} {w : World σ} {d : Device} {major minor : Int}
  (told : Driver.computeCapability p t d w = (.ok (major, minor), w))

include told

theorem architectureOf_of_told : architectureOf p t d w =
    (.ok (Text.signedDecimal major ++ Text.signedDecimal minor), w) := by
  refine (Act.bind_of_ok told).trans ?_
  rfl

variable (asked : Driver.currentDevice p t w = (.ok d, w))

include asked

/-- Without a runtime compiler the architecture is that of the current device. -/
theorem defaultArchitecture_of_told : defaultArchitecture p t false w =
    (.ok (Text.signedDecimal (major * 10 + minor)), w) := by
  refine (Act.bind_of_ok (Act.mapError_of_ok asked)).trans ?_
  refine (Act.bind_of_ok (Act.mapError_of_ok told)).trans ?_
  rfl

/-- With one, it is held down to the newest that the compiler knows. -/
theorem defaultArchitecture_of_newest {newest : Int} {w₁ : World σ}
    (found : Nvrtc.maxArchitecture p w = (.ok newest, w₁)) : defaultArchitecture p t true w =
      (.ok (Text.signedDecimal (min (major * 10 + minor) newest)), w₁) := by
  refine (Act.bind_of_ok (Act.mapError_of_ok asked)).trans ?_
  refine (Act.bind_of_ok (Act.mapError_of_ok told)).trans ?_
  refine (Act.bind_of_ok (Act.mapError_of_ok found)).trans ?_
  rfl

end Told

section Default

variable {ν : Type} (system : System) {t : ThreadId} {w : World (Bench ν)} {major minor : Int}
  (here : OnDevice w t major minor)

include here

/-- A driver is asked in the same way, whatever runtime compiler stands beside it. -/
theorem OnDevice.exists_device (nvrtc : Nvrtc.Backend (Bench ν)) :
    let p : Platform (Bench ν) := ⟨system, Bench.inProcessDriver, nvrtc⟩
    ∃ d, Driver.currentDevice p t w = (.ok d, w) ∧
      Driver.computeCapability p t d w = (.ok (major, minor), w) := by
  obtain ⟨devices, capability, es, books⟩ := here.books
  obtain ⟨c, current⟩ := here.current
  have sound : Integrity w.native.driver := books ▸ integrity_run devices capability es
  obtain ⟨d, asked, told⟩ := exists_device_inProcess system sound current
  exact ⟨d, asked, here.capability ▸ told⟩

/-- Both names of the architecture of the current device are the same numeral. -/
theorem OnDevice.names_agree (nvrtc : Nvrtc.Backend (Bench ν)) :
    let p : Platform (Bench ν) := ⟨system, Bench.inProcessDriver, nvrtc⟩
    let name := Text.signedDecimal major ++ Text.signedDecimal minor
    name = Text.signedDecimal (major * 10 + minor) ∧
      (∃ d, Driver.currentDevice p t w = (.ok d, w) ∧ architectureOf p t d w = (.ok name, w)) ∧
      defaultArchitecture p t false w = (.ok name, w) := by
  intro p name
  obtain ⟨d, asked, told⟩ := here.exists_device system nvrtc
  have side : Text.signedDecimal (major * 10 + minor) = name :=
    Text.signedDecimal_mul_ten_add here.major_pos here.minor_digit.1 here.minor_digit.2
  have chosen := defaultArchitecture_of_told told asked
  rw [side] at chosen
  exact ⟨side.symm, ⟨d, asked, architectureOf_of_told told⟩, chosen⟩

/-- With a runtime compiler the architecture is held down to the newest that it tells of. -/
theorem OnDevice.held_down (nvrtc : Nvrtc.Backend (Bench ν)) {known : Option (List Int)}
    {version newest : Int} :
    let p : Platform (Bench ν) := ⟨system, Bench.inProcessDriver, nvrtc⟩
    Nvrtc.Tells p w known version → IsNewest known version newest →
      (defaultArchitecture p t true w).1 =
        .ok (Text.signedDecimal (min (major * 10 + minor) newest)) := by
  intro p tells newer
  obtain ⟨d, asked, told⟩ := here.exists_device system nvrtc
  cases max : Nvrtc.maxArchitecture p w with
  | mk answer w' =>
    have found := Nvrtc.fst_maxArchitecture tells newer
    rw [max] at found
    obtain rfl : answer = .ok newest := found
    rw [defaultArchitecture_of_newest told asked max]

end Default

/-- **The architecture is chosen in agreement.** On a device whose minor number is a digit, the default
architecture without a runtime compiler is named like the device: the numeral of ten times the major number
and the minor one is both numerals side by side. Beside any runtime compiler that tells what it knows, it is
the smaller of this number and the newest that the compiler knows. With the in-process compiler, whose
architectures are 32-bit numbers, a source that is loaded without a choice, with options of which none
names an architecture, is compiled for exactly this number. The compilation fails for the architecture, and
the log says so, exactly if the options all begin with a hyphen and hold no NUL, and the compiler tells of
its architectures and the number is not among them; unless the source holds a NUL, this is also what the user
is told. -/
theorem default_architecture {ν : Type} (system : System) {t : ThreadId} {w : World (Bench ν)}
    {major minor : Int} (here : OnDevice w t major minor) :
    let number := major * 10 + minor
    let c := w.native.compiler
    (∀ nvrtc : Nvrtc.Backend (Bench ν),
      let p : Platform (Bench ν) := ⟨system, Bench.inProcessDriver, nvrtc⟩
      let name := Text.signedDecimal major ++ Text.signedDecimal minor
      name = Text.signedDecimal number ∧
      (∃ d, Driver.currentDevice p t w = (.ok d, w) ∧ architectureOf p t d w = (.ok name, w)) ∧
      defaultArchitecture p t false w = (.ok name, w) ∧
      ∀ known version newest, Nvrtc.Tells p w known version → IsNewest known version newest →
        (defaultArchitecture p t true w).1 = .ok (Text.signedDecimal (min number newest))) ∧
    ((∀ archs, c.architectures = some archs → ∀ arch ∈ archs, -0x80000000 ≤ arch) →
      ∃ newest, IsNewest c.architectures c.version.1 newest ∧
        let arch := min number newest
        let p := Platform.inProcess system
        defaultArchitecture p t true w = (.ok (Text.signedDecimal arch), w) ∧
        ∀ source options,
          (∀ option ∈ options, InProcess.Compiler.architectureValue? option = none) →
          compileAndLoad p t source options none .nvrtc w =
            compileAndLoad p t source options (some (Text.signedDecimal arch)) .nvrtc w ∧
          (∀ filename program w₁,
            Owned.Program.create p source filename w = (.ok program, w₁) →
            CompilesFor system program source options arch w w₁) ∧
          ('\x00' ∉ source.toList →
            (∀ option ∈ options, option.toList.head? = some '-' ∧ '\x00' ∉ option.toList) →
            c.IsUnknown arch →
            (compileAndLoad p t source options none .nvrtc w).1 = .error (.compile {
              compiler := .nvrtc
              message := InProcess.Compiler.unknownArchitecture arch
              source
              name := "kern.cu"
              options := nvrtcOptions w.settings options (Text.signedDecimal arch) }))) := by
  intro number c
  constructor
  · intro nvrtc p name
    obtain ⟨side, named, alone⟩ := here.names_agree system nvrtc
    exact ⟨side, named, alone, fun known version newest => here.held_down system nvrtc⟩
  · intro words
    have newer := c.isNewest_newest
    refine ⟨c.newest, newer, ?_⟩
    intro arch p
    have chosen : defaultArchitecture p t true w = (.ok (Text.signedDecimal arch), w) := by
      obtain ⟨d, asked, told⟩ := here.exists_device system Bench.inProcessNvrtc
      exact defaultArchitecture_of_newest told asked maxArchitecture_inProcess
    have low : -0x80000000 ≤ arch := by
      refine le_min (by have := here.major_pos; have := here.minor_digit.1; omega) ?_
      obtain ⟨archs, told, listed, -⟩ | ⟨-, same⟩ := newer
      · exact words archs told _ listed
      · rw [same]
        split <;> decide
    have high : arch < 0x80000000 := lt_of_le_of_lt (min_le_left _ _) here.fits
    refine ⟨chosen, fun source options unnamed => ?_⟩
    have given : compileAndLoad p t source options none .nvrtc w =
        compileAndLoad p t source options (some (Text.signedDecimal arch)) .nvrtc w :=
      Act.bind_of_ok chosen
    refine ⟨given, fun filename program w₁ created => compiles_for unnamed low high created,
      fun cleanSource accepted unknown => ?_⟩
    rw [given]
    exact compileAndLoad_of_unknown system unnamed low high cleanSource accepted unknown

/-- On a device of capability 7.1 the architecture is 71, which a compiler that tells of 70 and 72 does not
know; one that tells of no architecture, before its version 9, is taken to know 50. -/
theorem default_architecture_unlisted :
    let w : World (Bench Unit) := { native := deviceBench 7 1 }
    let old : World (Bench Unit) := { native := { deviceBench 7 1 with
      compiler := { version := (8, 0), architectures := none } } }
    let p : Platform (Bench Unit) := Platform.inProcess .bare
    OnDevice w 0 7 1 ∧ defaultArchitecture p 0 false w = (.ok "71", w) ∧
      defaultArchitecture p 0 true w = (.ok "71", w) ∧
      (compileAndLoad p 0 "" ["-G"] none .nvrtc w).1 = .error (.compile {
        compiler := .nvrtc
        message := "nvrtc: error: invalid value for -arch: compute_71"
        source := ""
        name := "kern.cu"
        options := ["-G", "-arch=compute_71"] }) ∧
      OnDevice old 0 7 1 ∧ (defaultArchitecture p 0 true old).1 = .ok "50" := by
  intro w old p
  have here : OnDevice w 0 7 1 := onDevice_deviceBench (by decide) (by decide) (by decide)
  have there : OnDevice old 0 7 1 := ⟨here.books, here.capability, here.current, here.major_pos,
    here.minor_digit, here.fits⟩
  have sides : Text.signedDecimal 7 ++ Text.signedDecimal 1 = "71" := by decide +kernel
  have fifty : Text.signedDecimal (min (7 * 10 + 1) 50) = "50" := by decide +kernel
  obtain ⟨alone, chosen⟩ := default_architecture .bare here
  obtain ⟨held, -⟩ := default_architecture .bare there
  obtain ⟨-, -, alone, -⟩ := alone Bench.inProcessNvrtc
  obtain ⟨newest, newer, chosen⟩ := chosen (by decide)
  obtain ⟨-, -, -, held⟩ := held Bench.inProcessNvrtc
  have same : min (7 * 10 + 1) newest = 71 := by
    obtain ⟨archs, told, -, greatest⟩ | ⟨none | none, -⟩ := newer
    · cases told
      have := greatest 90 (by decide)
      omega
    · cases none
    · cases none
  rw [same] at chosen
  obtain ⟨chosen, compiled⟩ := chosen
  obtain ⟨-, -, refused⟩ := compiled "" ["-G"] (by decide)
  refine ⟨here, sides ▸ alone, chosen, refused (by decide) (by decide) ⟨_, rfl, by decide⟩, there, ?_⟩
  exact fifty ▸ held none 8 50 ⟨_, rfl, fun _ => ⟨0, rfl⟩⟩ (Or.inr ⟨Or.inl rfl, rfl⟩)

/-- **An option is refused first.** Compiled with an option that does not begin with a hyphen, a source is
refused for the option, whether the compiler knows the architecture or not. -/
theorem exists_refused_for_option :
    let w (minor : Int) : World (Bench Unit) := { native := deviceBench 7 minor }
    let p : Platform (Bench Unit) := Platform.inProcess .bare
    let refused (minor : Int) (name : String) : Prop := OnDevice (w minor) 0 7 minor ∧
      (defaultArchitecture p 0 true (w minor)).1 = .ok name ∧
      (compileAndLoad p 0 "" ["foo"] none .nvrtc (w minor)).1 = .error (.compile {
        compiler := .nvrtc
        message := "nvrtc: error: unrecognized option foo"
        source := ""
        name := "kern.cu"
        options := ["foo", "-arch=compute_" ++ name] })
    InProcess.Compiler.architectureValue? "foo" = none ∧
      ((w 1).native.compiler.IsUnknown 71 ∧ refused 1 "71") ∧
      ¬ (w 0).native.compiler.IsUnknown 70 ∧ refused 0 "70" := by
  intro w p refused
  have here {minor : Int} (digit : 0 ≤ minor ∧ minor ≤ 9) : OnDevice (w minor) 0 7 minor :=
    onDevice_deviceBench (by decide) digit (by omega)
  refine ⟨by decide, ⟨⟨_, rfl, by decide⟩, here (by decide), ?_, ?_⟩, ?_, here (by decide), ?_, ?_⟩
  · decide +kernel
  · decide +kernel
  · rintro ⟨archs, told, missing⟩
    cases told
    exact absurd missing (by decide)
  · decide +kernel
  · decide +kernel

end Compile

end GpuDriver
