import GpuDriver.Proofs.InProcess.Programs
import GpuDriver.Proofs.Owned.Success
import GpuDriver.Proofs.Source.Translation
import GpuDriver.Proofs.Text.Numeral

/-!
# Loading what was translated

The in-process runtime compiler translates a source, and the in-process driver links and loads the
translation. Each reads what the one before it wrote, so that what is found in the module at the end is
what the source says (`Compile.translation_loads`).
-/

namespace GpuDriver

open Owned InProcess InProcess.State

/-! ### Options -/

theorem Utf8.map_decodeLossy_encode (texts : List String) :
    (texts.map Utf8.encode).map Utf8.decodeLossy = texts := by
  rw [List.map_map]
  exact (List.map_congr_left fun text _ => Utf8.decodeLossy_encode text).trans (List.map_id _)

namespace InProcess.Compiler

/-- A numeral has nothing but digits and a sign. -/
theorem not_mem_of_int32? {cs : List Char} {k : Int} (h : Text.int32? cs = some k) : '\x00' ∉ cs := by
  have digits {cs : List Char} (h : Text.digits? cs ≠ none) : '\x00' ∉ cs := by
    obtain ⟨n, hn⟩ := Option.ne_none_iff_exists'.1 h
    exact fun hm => absurd (Text.isDigit_of_digits? hn _ hm) (by decide)
  obtain ⟨read, -⟩ := Option.filter_eq_some_iff.1 h
  split at read
  · refine List.not_mem_cons_of_ne_of_not_mem (by decide) (digits fun none => ?_)
    simp [none] at read
  · refine List.not_mem_cons_of_ne_of_not_mem (by decide) (digits fun none => ?_)
    simp [none] at read
  · refine digits fun none => ?_
    simp [none] at read

/-- The option that the library adds for an architecture. -/
theorem namedArchitecture_cons_name (arch : Int) (name : String) (rest : List String) :
    namedArchitecture arch (("-arch=compute_" ++ name) :: rest) =
      match Text.int32? name.toList with
      | some arch => namedArchitecture arch rest
      | none => .error (badArchitecture (String.ofList ("compute_".toList ++ name.toList))) := by
  have option : architectureValue? ("-arch=compute_" ++ name) =
      some ("compute_".toList ++ name.toList) := by
    have cut : Text.after? "-arch=".toList ("-arch=compute_" ++ name).toList =
        some ("compute_".toList ++ name.toList) := by
      rw [Text.after?_eq_some_iff, String.toList_append]
      rfl
    rw [architectureValue?, cut]
    rfl
  have value : Text.after? "compute_".toList ("compute_".toList ++ name.toList) =
      some name.toList := Text.after?_eq_some_iff.2 rfl
  cases read : Text.int32? name.toList <;>
    simp only [namedArchitecture, option, value, Option.bind_some, read]

/-- The name of an architecture that is accepted is a numeral. -/
theorem exists_int32?_of_namedArchitecture {arch target : Int} {front rest : List String}
    {name : String} (h : namedArchitecture arch (front ++ ("-arch=compute_" ++ name) :: rest) =
      .ok target) : ∃ k, Text.int32? name.toList = some k := by
  induction front generalizing arch with
  | nil =>
    rw [List.nil_append, namedArchitecture_cons_name] at h
    split at h
    · exact ⟨_, ‹_›⟩
    · cases h
  | cons option front ih =>
    rw [List.cons_append, namedArchitecture] at h
    split at h
    · split at h
      · exact ih h
      · cases h
    · split at h
      · exact ih h
      · cases h

section Translate

variable {c : Compiler} {q : Handle} {program : InProcess.Program} {options : List String} {target : Int}
  {text : String} (alive : c.programs.get? q = some program)

include alive

/-- A program whose source can be translated is compiled to the translation. -/
theorem compile_of_translate (accepted : c.targetArchitecture options = .ok target)
    (translated : Source.translate program.source target = .ok text) :
    c.compile q (options.map Utf8.encode) = (.ok (), { c with
      lastOptions := options
      programs := c.programs.insert q { program with ptx := some text, log := "" } }) := by
  have accepted : ({ c with lastOptions := options } : Compiler).targetArchitecture options =
    .ok target := accepted
  simp only [compile, Utf8.map_decodeLossy_encode, compileWith, alive, accepted, translated]
  rfl

theorem ptx_of_get? (done : program.ptx = some text) : c.ptx q = .ok (Utf8.encode text) := by
  simp only [ptx, alive, Option.bind_some, done]

theorem destroy_of_get? : c.destroy q = (.ok (), { c with programs := c.programs.erase q }) := by
  simp only [destroy, alive]

end Translate

/-- The newest architecture that the compiler is taken to compile for. -/
def newest (c : Compiler) : Int :=
  match c.architectures.bind Nvrtc.greatest? with
  | some arch => arch
  | none => if c.version.1 < 9 then 50 else 70

end InProcess.Compiler

/-- The number of the architecture that is compiled for when none is given. -/
def Bench.defaultArchitecture {ν : Type} (b : Bench ν) : Int :=
  min (b.driver.capability.1 * 10 + b.driver.capability.2) b.compiler.newest

/-- A bench on which a thread has a current context. -/
def Bench.current : Bench Unit where
  driver := (fresh 1 (7, 0)).run [⟨0, {}, .init 0⟩, ⟨0, {}, .createContext 0 ⟨0⟩⟩]
  vendor := ()

namespace Compile

variable {ν : Type} {system : System} {t : ThreadId} {w : World (Bench ν)}

/-- The options that the runtime compiler is given hold no NUL if those of the user hold none and the
architecture is a number. -/
theorem nvrtcOptions_clean_of_int32? {settings : Settings} {options : List String} {name : String}
    {arch : Int} (numeral : Text.int32? name.toList = some arch)
    (clean : ∀ option ∈ options, '\x00' ∉ option.toList) :
    ∀ option ∈ nvrtcOptions settings options name, '\x00' ∉ option.toList := by
  have named : '\x00' ∉ ("-arch=compute_" ++ name).toList := by
    rw [String.toList_append]
    exact List.not_mem_append (by decide) (InProcess.Compiler.not_mem_of_int32? numeral)
  have debug : ∀ option ∈ debugOptions settings, '\x00' ∉ option.toList := by
    unfold debugOptions
    split <;> decide
  exact List.forall_mem_append.2
    ⟨List.forall_mem_append.2 ⟨clean, List.forall_mem_singleton.2 named⟩, debug⟩

theorem nvrtcOptions_clean {c : InProcess.Compiler} {settings : Settings} {options : List String}
    {name : String} {target : Int}
    (accepted : c.targetArchitecture (nvrtcOptions settings options name) = .ok target)
    (clean : ∀ option ∈ options, '\x00' ∉ option.toList) :
    ∀ option ∈ nvrtcOptions settings options name, '\x00' ∉ option.toList := by
  have named := InProcess.Compiler.namedArchitecture_of_target accepted
  rw [nvrtcOptions, List.append_assoc, List.singleton_append] at named
  obtain ⟨arch, numeral⟩ := InProcess.Compiler.exists_int32?_of_namedArchitecture named
  exact nvrtcOptions_clean_of_int32? numeral clean

/-! ### The default architecture -/

theorem maxArchitecture_inProcess : Nvrtc.maxArchitecture (Platform.inProcess system) w =
    (.ok w.native.compiler.newest, w) := by
  have told : (Platform.inProcess system).callNvrtc .architectures w =
      (.ok w.native.compiler.architectures, w) := Platform.callNvrtc_of_step rfl
  have version : Nvrtc.version (Platform.inProcess system) w = (.ok w.native.compiler.version, w) :=
    Platform.callNvrtc_of_step rfl
  refine (Act.bind_of_ok told).trans ?_
  unfold InProcess.Compiler.newest
  split
  · rename_i arch newest
    rw [newest]
    rfl
  · rename_i unknown
    rw [unknown]
    exact Act.bind_of_ok version

variable (system) in
/-- With a current context that is alive, its device is found, and the capability of the device. -/
theorem exists_device_inProcess {c : Handle} (sound : Integrity w.native.driver)
    (current : w.native.driver.current t = .ok c) :
    ∃ d, Driver.currentDevice (Platform.inProcess system) t w = (.ok d, w) ∧
      Driver.computeCapability (Platform.inProcess system) t d w =
        (.ok w.native.driver.capability, w) := by
  obtain ⟨up, -, alive⟩ := current_eq_ok_iff.1 current
  obtain ⟨context, hcontext⟩ := Table.mem_keys.1 alive
  have known : w.native.driver.HasDevice context.device := sound.device_known hcontext
  have required := (requireDevice_eq_ok_iff (u := ())).2 ⟨up, known⟩
  have device : w.native.driver.currentDevice t = .ok context.device := by
    rw [State.currentDevice, current]
    simp [bind, Except.bind, hcontext, pure, Except.pure]
  have told {which : Attribute} {n : Int}
      (value : w.native.driver.deviceAttribute which context.device = .ok n) :
      Driver.deviceAttribute (Platform.inProcess system) t context.device which w = (.ok n, w) :=
    Platform.call_of_step (congrArg w.native.driver.asked value)
  have major : w.native.driver.deviceAttribute .capabilityMajor context.device =
      .ok w.native.driver.capability.1 := by
    rw [State.deviceAttribute, required]
    rfl
  have minor : w.native.driver.deviceAttribute .capabilityMinor context.device =
      .ok w.native.driver.capability.2 := by
    rw [State.deviceAttribute, required]
    rfl
  exact ⟨context.device, Platform.call_of_step (congrArg w.native.driver.asked device),
    (Act.bind_of_ok (told major)).trans (Act.bind_of_ok (told minor))⟩

/-- With a current context that is alive, the default architecture is found. -/
theorem defaultArchitecture_inProcess {c : Handle} (sound : Integrity w.native.driver)
    (current : w.native.driver.current t = .ok c) :
    defaultArchitecture (Platform.inProcess system) t true w =
      (.ok (Text.signedDecimal w.native.defaultArchitecture), w) := by
  obtain ⟨d, asked, told⟩ := exists_device_inProcess system sound current
  refine (Act.bind_of_ok (Act.mapError_of_ok asked)).trans ?_
  refine (Act.bind_of_ok (Act.mapError_of_ok told)).trans ?_
  exact Act.bind_of_ok (Act.mapError_of_ok maxArchitecture_inProcess)

/-! ### Translating -/

theorem octets_of_not_mem {code : Nvrtc.Code} {text : String} (clean : '\x00' ∉ text.toList) :
    Nvrtc.octets code text = .ok (Utf8.encode text) := by
  simp [Nvrtc.octets, clean]

theorem mapM_octets {options : List String} (clean : ∀ option ∈ options, '\x00' ∉ option.toList) :
    options.mapM (Nvrtc.octets .invalidOption) = .ok (options.map Utf8.encode) := by
  induction options with
  | nil => rfl
  | cons option rest ih =>
    obtain ⟨hoption, hrest⟩ := List.forall_mem_cons.1 clean
    rw [List.mapM_cons, octets_of_not_mem hoption, ih hrest]
    rfl

/-- A source and a name without NULs become a program with a fresh handle. -/
theorem create_of_not_mem {source filename : String} (cleanSource : '\x00' ∉ source.toList)
    (cleanFilename : '\x00' ∉ filename.toList) :
    let q := w.native.compiler.lastHandle + 0x10
    Owned.Program.create (Platform.inProcess system) source filename w =
      (.ok ⟨q, filename⟩, w.withCompiler { w.native.compiler with
        lastHandle := q
        programs := w.native.compiler.programs.insert q { source, name := filename } }) := by
  intro q
  have create : w.native.compiler.create (Utf8.encode source) (Utf8.encode filename) =
      (.ok q, { w.native.compiler with
        lastHandle := q
        programs := w.native.compiler.programs.insert q { source, name := filename } }) := by
    simp only [InProcess.Compiler.create, Utf8.decode?_encode, Utf8.decodeLossy_encode]
    rfl
  refine (Act.bind_of_ok (Act.ofExcept_of_ok (octets_of_not_mem cleanSource))).trans ?_
  refine (Act.bind_of_ok (Act.ofExcept_of_ok (octets_of_not_mem cleanFilename))).trans ?_
  exact Act.bind_of_ok (Platform.callNvrtc_of_step create)

variable (system) in
/-- **A source that can be translated** is compiled to its translation, and the driver knows nothing of
it. -/
theorem withNvrtc_of_translate {source text name filename : String} {options : List String}
    {target : Int} (translated : Source.translate source target = .ok text)
    (accepted : w.native.compiler.targetArchitecture (nvrtcOptions w.settings options name) =
      .ok target)
    (cleanSource : '\x00' ∉ source.toList) (cleanFilename : '\x00' ∉ filename.toList)
    (clean : ∀ option ∈ options, '\x00' ∉ option.toList) :
    ∃ compiler, withNvrtc (Platform.inProcess system) source options name filename w =
      (.ok text, w.withCompiler compiler) := by
  let q := w.native.compiler.lastHandle + 0x10
  let program : InProcess.Program := { source, name := filename }
  let c₁ : InProcess.Compiler := { w.native.compiler with
    lastHandle := q
    programs := w.native.compiler.programs.insert q program }
  let c₂ : InProcess.Compiler := { c₁ with
    lastOptions := nvrtcOptions w.settings options name
    programs := c₁.programs.insert q { program with ptx := some text, log := "" } }
  have done : c₂.programs.get? q = some { program with ptx := some text, log := "" } :=
    Table.get?_insert_self ..
  have created : Owned.Program.create (Platform.inProcess system) source filename w =
      (.ok ⟨q, filename⟩, w.withCompiler c₁) := create_of_not_mem cleanSource cleanFilename
  have compiled : Owned.Program.compile (Platform.inProcess system) ⟨q, filename⟩
      (nvrtcOptions w.settings options name) (w.withCompiler c₁) = (.ok (), w.withCompiler c₂) := by
    have given := mapM_octets (nvrtcOptions_clean accepted clean)
    refine (Act.bind_of_ok (Act.ofExcept_of_ok given)).trans ?_
    exact Platform.callNvrtc_of_step (w := w.withCompiler c₁)
      (InProcess.Compiler.compile_of_translate (Table.get?_insert_self ..) accepted translated)
  have read : Owned.Program.ptx (Platform.inProcess system) ⟨q, filename⟩ (w.withCompiler c₂) =
      (.ok (Utf8.encode text), w.withCompiler c₂) :=
    Platform.callNvrtc_of_step (w := w.withCompiler c₂)
      (congrArg (·, c₂) (InProcess.Compiler.ptx_of_get? done rfl))
  have dropped : Owned.Program.drop (Platform.inProcess system) ⟨q, filename⟩ (w.withCompiler c₂) =
      w.withCompiler { c₂ with programs := c₂.programs.erase q } := by
    have destroyed : (Platform.inProcess system).callNvrtc (.destroy q) (w.withCompiler c₂) = _ :=
      Platform.callNvrtc_of_step (w := w.withCompiler c₂) (InProcess.Compiler.destroy_of_get? done)
    simp only [Owned.Program.drop, destroyed]
    rfl
  have answered : compileProgram (Platform.inProcess system) ⟨q, filename⟩ source filename
      (nvrtcOptions w.settings options name) (w.withCompiler c₁) = (.ok text, w.withCompiler c₂) := by
    refine (Act.bind_of_ok (Act.attempt_of_ok compiled)).trans ?_
    refine (Act.bind_of_ok (Act.mapError_of_ok read)).trans ?_
    rw [Utf8.decode?_encode]
    rfl
  refine ⟨{ c₂ with programs := c₂.programs.erase q }, ?_⟩
  refine (Act.bind_of_ok (Act.look_eq _)).trans ?_
  refine (Act.bind_of_ok (Act.mapError_of_ok created)).trans ?_
  exact dropped ▸ Act.thenClean_of_ok answered

/-! ### Loading -/

/-- On the in-process platform, with the books of some run, the thread can compile with the options for
an architecture and load the result. -/
structure Ready (w : World (Bench ν)) (t : ThreadId) (options : List String) (arch : Option String)
    (target : Int) : Prop where
  /-- The books are those of a run. -/
  books : ∃ devices capability es, w.native.driver = (fresh devices capability).run es
  /-- The thread has a current context that is alive. -/
  current : ∃ c, w.native.driver.current t = .ok c
  /-- The runtime compiler accepts the options and compiles for this architecture, be it given or the
  default one. -/
  accepted : w.native.compiler.targetArchitecture (nvrtcOptions w.settings options
    (arch.getD (Text.signedDecimal w.native.defaultArchitecture))) = .ok target
  /-- No option holds a NUL. -/
  clean : ∀ option ∈ options, '\x00' ∉ option.toList

variable (system) in
/-- **What comes of a source that can be translated.** The translation is linked, unless it defines a
kernel twice, and what was linked is loaded. -/
theorem compileAndLoad_of_translate {source text : String} {options : List String}
    {arch : Option String} {target : Int} (translated : Source.translate source target = .ok text)
    (ready : Ready w t options arch target) (cleanSource : '\x00' ∉ source.toList)
    (valid : Ptx.isModule text = true) (cleanText : '\x00' ∉ text.toList)
    (room : w.native.driver.nextAddress + reservedFor (Ptx.symbols text).globals < Text.wordBound) :
    let answer := compileAndLoad (Platform.inProcess system) t source options arch .nvrtc w
    if (Ptx.symbols text).entries.Nodup then
      ∃ (s : State) (c cursor : Handle) (m : Owned.Module), s.initialized = true ∧
        answer.1 = .ok m ∧ (m.handle, answer.2.native.driver) = addModule s c
          ((allocations cursor (Ptx.symbols text).globals).foldl (fun t a => t.insert a.1 a.2)
            Table.empty) (Ptx.symbols text).entries
    else answer.1 = .error (.driver (.call (.ofStatus .invalidImage))) := by
  intro answer
  obtain ⟨devices, capability, es, books⟩ := ready.books
  obtain ⟨c, current⟩ := ready.current
  have sound : Integrity w.native.driver := books ▸ integrity_run devices capability es
  have up : w.native.driver.initialized = true := (current_eq_ok_iff.1 current).1
  have ending : text.toList.getLast? ≠ some '\x00' := fun h => cleanText (List.mem_of_getLast? h)
  have cleanFilename : '\x00' ∉ "kern.cu".toList := by decide
  have cleanName : '\x00' ∉ "kern.ptx".toList := by decide
  obtain ⟨compiler, compiled⟩ := withNvrtc_of_translate system translated ready.accepted cleanSource
    cleanFilename ready.clean
  have read : imageText? (Utf8.encode text) = some text := by
    rw [imageText?_encode ending, isBlankText_of_isModule valid]
    rfl
  obtain ⟨links, linked⟩ := Owned.linkPtx_of_isModule system (w := w.withCompiler compiler) current
    read valid cleanName
  -- the architecture is given or asked for; what follows is the same
  let rest (name : String) : Act (Bench ν) Error Owned.Module := do
    let code ← compile (Platform.inProcess system) source options name "kern.cu" .nvrtc
    let image ← imageOf (Platform.inProcess system) t code
    (Module.loadData (Platform.inProcess system) t image).mapError fun e => .driver (.call e)
  have chosen : answer = rest (arch.getD (Text.signedDecimal w.native.defaultArchitecture)) w := by
    cases arch with
    | some arch => rfl
    | none => exact Act.bind_of_ok (defaultArchitecture_inProcess sound current)
  have compiled : compile (Platform.inProcess system) source options
      (arch.getD (Text.signedDecimal w.native.defaultArchitecture)) "kern.cu" .nvrtc w =
        (.ok (.ptx text), w.withCompiler compiler) := Act.bind_of_ok compiled
  have answered := chosen.trans (Act.bind_of_ok compiled)
  split
  · rename_i distinct
    rw [if_pos distinct] at linked
    let s : State := { w.native.driver with
      lastHandle := w.native.driver.lastHandle + handleStep
      links }
    have valid : Ptx.isModule (text ++ "\n") = true := by rwa [Ptx.isModule_newline]
    have read : imageText? (Utf8.encode (text ++ "\n")) = some (text ++ "\n") :=
      imageText?_encode_of_isModule valid (by simp)
    have defined : Ptx.symbols (text ++ "\n") = Ptx.symbols text := Ptx.symbols_newline text
    have placed := place_of_fits room .empty
    have loaded := Owned.Module.loadData_of_isModule system
      (w := (w.withCompiler compiler).withDriver s) current read valid (defined ▸ placed)
    rw [defined] at loaded
    have answered := (answered.trans (Act.bind_of_ok (Act.mapError_of_ok linked))).trans
      (Act.mapError_of_ok loaded)
    exact ⟨{ s with nextAddress := s.nextAddress + reservedFor (Ptx.symbols text).globals }, c,
      s.nextAddress, _, up, congrArg Prod.fst answered,
      congrArg (fun x => (_, x.2.native.driver)) answered⟩
  · rename_i twice
    rw [if_neg twice] at linked
    have answered := answered.trans (Act.bind_of_error (Act.mapError_of_error linked))
    exact congrArg Prod.fst answered

/-- What can be looked up in a module that was just loaded, by any thread. -/
theorem lookup_of_addModule {s : State} (up : s.initialized = true) {c : Handle} {cursor : Address}
    {globals : List Ptx.Global} {entries : List String} {m : Owned.Module}
    (loaded : (m.handle, w.native.driver) = addModule s c
      ((allocations cursor globals).foldl (fun t a => t.insert a.1 a.2) Table.empty) entries)
    (cleanEntries : ∀ k ∈ entries, '\x00' ∉ k.toList)
    (cleanGlobals : ∀ g ∈ globals, '\x00' ∉ g.name.toList) :
    (∀ u name, (∃ f, (m.function (Platform.inProcess system) u name w).1 = .ok f) ↔ name ∈ entries) ∧
      ∀ u name bytes,
        (∃ address, (m.global (Platform.inProcess system) u name w).1 = .ok ⟨address, bytes⟩) ↔
          sizeOf? globals name = some bytes := by
  obtain ⟨functions, places⟩ := lookup_addModule up c cursor globals entries
  rw [← loaded] at functions places
  constructor
  · intro u name
    rw [Module.exists_function_iff, functions]
    constructor
    · rintro ⟨-, k, hk, heq⟩
      exact Utf8.encode_injective heq ▸ hk
    · exact fun hk => ⟨cleanEntries name hk, name, hk, rfl⟩
  · intro u name bytes
    simp only [Module.fst_global_eq_ok_iff, exists_and_left, places]
    constructor
    · rintro ⟨-, k, heq, hk⟩
      exact Utf8.encode_injective heq ▸ hk
    · intro hk
      obtain ⟨g, hg, -⟩ := Option.map_eq_some_iff.1 hk
      have named : g.name = name := by simpa using List.find?_some hg
      have there : g ∈ globals := List.mem_reverse.1 (List.mem_of_find?_eq_some hg)
      exact ⟨named ▸ cleanGlobals g there, name, rfl, hk⟩

/-- **A translation means what the source says.** If a source can be translated and the names of its
variables are identifiers, then the translation is a module with the kernels of the source in order and
its variables in order, each with the size of its type. In a live context, with options for this
architecture and while addresses are left, the source is then compiled and loaded, provided that it
holds no NUL: this fails if it announces a kernel twice, and otherwise gives a module in which every
thread finds the kernels of the source and no others, and its variables with the sizes of their last
declarations and no others. -/
theorem translation_loads (source : String) (target : Int) (text : String)
    (translated : Source.translate source target = .ok text)
    (identifiers : ∀ s ∈ Source.deviceScalars source, Source.isIdentifier s.name = true) :
    ∃ kernels, Source.kernelNames source = .ok kernels ∧ Ptx.isModule text = true ∧
      Ptx.symbols text = ⟨kernels, (Source.deviceScalars source).map Source.DeviceScalar.global⟩ ∧
      ∀ {ν : Type} (system : System) (t : ThreadId) (options : List String) (arch : Option String)
        (w : World (Bench ν)),
        Ready w t options arch target → '\x00' ∉ source.toList →
        w.native.driver.nextAddress +
          reservedFor ((Source.deviceScalars source).map Source.DeviceScalar.global) < Text.wordBound →
        let answer := compileAndLoad (Platform.inProcess system) t source options arch .nvrtc w
        if kernels.Nodup then
          ∃ m, answer.1 = .ok m ∧
            (∀ u name, (∃ f, (m.function (Platform.inProcess system) u name answer.2).1 = .ok f) ↔
              name ∈ kernels) ∧
            ∀ u name bytes, (∃ address,
              (m.global (Platform.inProcess system) u name answer.2).1 = .ok ⟨address, bytes⟩) ↔
                sizeOf? ((Source.deviceScalars source).map Source.DeviceScalar.global) name =
                  some bytes
        else answer.1 = .error (.driver (.call (.ofStatus .invalidImage))) := by
  obtain ⟨kernels, announced, names, valid, defined, cleanText⟩ :=
    Source.read_translation translated identifiers
  refine ⟨kernels, announced, valid, defined, fun system t options arch w ready cleanSource room => ?_⟩
  intro answer
  have outcome := compileAndLoad_of_translate system translated ready cleanSource valid cleanText
    (defined ▸ room)
  rw [defined] at outcome
  have cleanKernels : ∀ k ∈ kernels, '\x00' ∉ k.toList := fun k hk =>
    (names k hk).not_mem (by decide)
  have cleanGlobals : ∀ g ∈ (Source.deviceScalars source).map Source.DeviceScalar.global,
      '\x00' ∉ g.name.toList := by
    intro g hg
    obtain ⟨s, hs, rfl⟩ := List.mem_map.1 hg
    obtain ⟨name, hname⟩ := Source.exists_identifier (identifiers s hs)
    exact hname ▸ name.not_mem (by decide)
  by_cases distinct : kernels.Nodup
  · rw [if_pos distinct] at outcome ⊢
    obtain ⟨s, c, cursor, m, up, answered, loaded⟩ := outcome
    exact ⟨m, answered, lookup_of_addModule up loaded cleanKernels cleanGlobals⟩
  · rw [if_neg distinct] at outcome ⊢
    exact outcome

/-- A kernel and a variable are found in what a source is loaded as. -/
theorem translation_loads_step :
    let source := "__device__ int count;\n__global__ void step() \x7b\x7d\n"
    let w : World (Bench Unit) := { native := Bench.current }
    let p : Platform (Bench Unit) := Platform.inProcess .bare
    let answer := compileAndLoad p 0 source [] none .nvrtc w
    (∃ text, Source.translate source 70 = .ok text) ∧ Ready w 0 [] none 70 ∧
      ∃ m, answer.1 = .ok m ∧ (∃ f, (m.function p 1 "step" answer.2).1 = .ok f) ∧
        ∃ address, (m.global p 1 "count" answer.2).1 = .ok ⟨address, 4⟩ := by
  intro source w p
  have ready : Ready w 0 [] none 70 :=
    ⟨⟨1, (7, 0), _, rfl⟩, ⟨0x1100, rfl⟩, by decide +kernel, by simp⟩
  have scalars : Source.deviceScalars source = [⟨"count", .s32⟩] := by decide +kernel
  have announced : Source.kernelNames source = .ok ["step"] := by decide +kernel
  have faultless : Source.flaw? source = none := by decide +kernel
  have room : w.native.driver.nextAddress +
      reservedFor ((Source.deviceScalars source).map Source.DeviceScalar.global) < Text.wordBound := by
    rw [scalars]
    decide +kernel
  obtain ⟨text, translated⟩ : ∃ text, Source.translate source 70 = .ok text :=
    ⟨_, Source.translate_eq_ok_iff.2 ⟨faultless, _, announced, rfl⟩⟩
  obtain ⟨kernels, hk, -, -, loads⟩ := translation_loads source 70 text translated
    (by rw [scalars]; decide +kernel)
  obtain rfl : ["step"] = kernels := Except.ok.inj (announced.symm.trans hk)
  have outcome := loads .bare 0 [] none w ready (by decide +kernel) room
  rw [if_pos (by decide), scalars] at outcome
  refine ⟨⟨text, translated⟩, ready, ?_⟩
  -- the answer must stay unevaluated: the lookups follow from the theorem alone
  generalize compileAndLoad _ 0 source [] none .nvrtc w = answer at outcome ⊢
  obtain ⟨m, loaded, functions, globals⟩ := outcome
  exact ⟨m, loaded, (functions 1 "step").2 List.mem_cons_self,
    (globals 1 "count" 4).2 (by decide +kernel)⟩

/-- **NULs are refused.** A source with a kernel can be translated but is not loaded if a NUL follows
the kernel; nor is the kernel alone if an option holds a NUL, though the runtime compiler would accept
the options. -/
theorem exists_translated_not_loaded :
    let kernel := "__global__ void k() \x7b\x7d"
    let w : World (Bench Unit) := { native := Bench.current }
    let p : Platform (Bench Unit) := Platform.inProcess .bare
    let translates (source : String) : Prop := (∃ text, Source.translate source 70 = .ok text) ∧
      Source.kernelNames source = .ok ["k"] ∧ Source.deviceScalars source = []
    w.native.driver.nextAddress + reservedFor [] < Text.wordBound ∧
      (translates (kernel ++ "\x00") ∧ Ready w 0 [] (some "70") 70 ∧
        (compileAndLoad p 0 (kernel ++ "\x00") [] (some "70") .nvrtc w).1 =
          .error (.nvrtc (.ofCode .invalidInput))) ∧
      translates kernel ∧
        w.native.compiler.targetArchitecture (nvrtcOptions w.settings ["-\x00"] "70") = .ok 70 ∧
        (compileAndLoad p 0 kernel ["-\x00"] (some "70") .nvrtc w).1 = .error (.compile {
          compiler := .nvrtc
          message := "NVRTC_ERROR_INVALID_OPTION"
          source := kernel
          name := "kern.cu"
          options := ["-\x00", "-arch=compute_70"] }) := by
  intro kernel w p translates
  have ready : Ready w 0 [] (some "70") 70 :=
    ⟨⟨1, (7, 0), _, rfl⟩, ⟨0x1100, rfl⟩, by decide +kernel, by simp⟩
  have translated {source : String} (faultless : Source.flaw? source = none)
      (announced : Source.kernelNames source = .ok ["k"])
      (scalars : Source.deviceScalars source = []) : translates source :=
    ⟨⟨_, Source.translate_eq_ok_iff.2 ⟨faultless, _, announced, rfl⟩⟩, announced, scalars⟩
  refine ⟨by decide +kernel, ⟨translated ?_ ?_ ?_, ready, ?_⟩, translated ?_ ?_ ?_, ?_, ?_⟩
  all_goals decide +kernel

end Compile

end GpuDriver
