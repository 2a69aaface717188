import GpuDriver.Library.Native

/-!
# What a driver library is bound to

A function of the driver is exported under its plain name, and some under that name with a version, which
is preferred (`DriverEntry.names`). The rows that are looked up are these names in the order of the entry
points (`DriverEntry.rows_eq`), so that each entry point is bound to a name of its own function and the
first that has none is told (`bindRows_names`). Every call then goes to the function that it is for
(`DriverBinding.calls_of_entry?`), and of the libraries that could be opened only the first one counts
(`driver_opened_and_bound`).
-/

namespace GpuDriver.Library

/-! ### Names of functions -/

namespace DriverEntry

/-- The name of a function without a version. -/
def plainName : DriverEntry → String
  | init => "cuInit"
  | driverGetVersion => "cuDriverGetVersion"
  | deviceGetCount => "cuDeviceGetCount"
  | deviceGet => "cuDeviceGet"
  | deviceGetAttribute => "cuDeviceGetAttribute"
  | primaryCtxRetain => "cuDevicePrimaryCtxRetain"
  | primaryCtxRelease => "cuDevicePrimaryCtxRelease"
  | ctxGetCurrent => "cuCtxGetCurrent"
  | ctxSetCurrent => "cuCtxSetCurrent"
  | ctxGetDevice => "cuCtxGetDevice"
  | ctxCreate => "cuCtxCreate"
  | ctxDestroy => "cuCtxDestroy"
  | linkCreate => "cuLinkCreate"
  | linkAddData => "cuLinkAddData"
  | linkComplete => "cuLinkComplete"
  | linkDestroy => "cuLinkDestroy"
  | moduleLoad => "cuModuleLoad"
  | moduleLoadData => "cuModuleLoadData"
  | moduleUnload => "cuModuleUnload"
  | moduleGetFunction => "cuModuleGetFunction"
  | moduleGetGlobal => "cuModuleGetGlobal"
  | launchKernel => "cuLaunchKernel"

/-- The name of a function with its version, if it has one. -/
def versionedName? (e : DriverEntry) : Option String :=
  match e with
  | primaryCtxRelease | ctxCreate | ctxDestroy | linkCreate | linkAddData | moduleGetGlobal =>
    some (e.plainName ++ "_v2")
  | _ => none

/-- The names that a function can be exported under, the preferred one first. -/
def names (e : DriverEntry) : List String := e.versionedName?.toList ++ [e.plainName]

/-- A library exports a function under one of its names. -/
def IsExported (e : DriverEntry) (exports : Exports) : Prop := ∃ name ∈ e.names, name ∈ exports

instance (e : DriverEntry) (exports : Exports) : Decidable (e.IsExported exports) :=
  inferInstanceAs (Decidable (∃ name ∈ e.names, _))

/-- The name that a function is called by: the one with its version if that is exported, and else the one
without. -/
def calledName (e : DriverEntry) (exports : Exports) : String :=
  match e.versionedName? with
  | some versioned => if versioned ∈ exports then versioned else e.plainName
  | none => e.plainName

/-- **The rows and the entry points are in the same order.** -/
theorem rows_eq : rows = all.map names := by
  decide

end DriverEntry

/-! ### Binding -/

namespace DriverBinding

variable {exports : Exports} {e : DriverEntry}

theorem chosen?_of_isExported (h : e.IsExported exports) :
    chosen? exports e.names = some (e.calledName exports) := by
  obtain ⟨name, named, exported⟩ := h
  unfold DriverEntry.names at named ⊢
  unfold DriverEntry.calledName chosen?
  cases version : e.versionedName? with
  | none =>
    obtain rfl : name = e.plainName := by simpa [version] using named
    simp [exported]
  | some versioned =>
    rcases Decidable.em (versioned ∈ exports) with preferred | missing
    · simp [preferred]
    · have plain : e.plainName ∈ exports := by
        obtain rfl | rfl : name = versioned ∨ name = e.plainName := by simpa [version] using named
        · exact absurd exported missing
        · exact exported
      simp [missing, plain]

theorem chosen?_of_not_isExported (h : ¬ e.IsExported exports) : chosen? exports e.names = none :=
  List.find?_eq_none.2 fun name named exported =>
    h ⟨name, named, List.contains_iff_mem.1 exported⟩

/-- **Entry points that are exported are bound** to the names that they are called by. -/
theorem bindRows_names (entries : List DriverEntry) (h : ∀ e ∈ entries, e.IsExported exports) :
    (bindRows exports entries (entries.map DriverEntry.names)).1 =
      .ok (entries.map fun e => (e, e.calledName exports)) := by
  induction entries with
  | nil => rfl
  | cons e entries ih =>
    obtain ⟨exported, rest⟩ := List.forall_mem_cons.1 h
    rw [List.map_cons, bindRows, List.headD_cons, chosen?_of_isExported exported]
    exact congrArg (Except.map _) (ih rest)

/-- The first entry point that is not exported is told with its names. -/
theorem bindRows_names_of_missing {front : List DriverEntry}
    (h : ∀ e ∈ front, e.IsExported exports) (missing : ¬ e.IsExported exports)
    (back : List DriverEntry) :
    (bindRows exports (front ++ e :: back) ((front ++ e :: back).map DriverEntry.names)).1 =
      .error (.missingSymbol (Text.joined "/" e.names)) := by
  induction front with
  | nil =>
    rw [List.nil_append, List.map_cons, bindRows, List.headD_cons, chosen?_of_not_isExported missing]
  | cons first front ih =>
    obtain ⟨exported, rest⟩ := List.forall_mem_cons.1 h
    rw [List.cons_append, List.map_cons, bindRows, List.headD_cons, chosen?_of_isExported exported]
    exact congrArg (Except.map _) (ih rest)

/-- What a library is bound to that exports all that is needed. -/
theorem ofExports_of_forall_isExported (h : ∀ e : DriverEntry, e.IsExported exports) :
    (ofExports exports).1 = .ok {
      symbol := fun e => e.calledName exports
      namesErrors := exports.contains errorNameSymbol
      describesErrors := exports.contains errorTextSymbol } := by
  have bound := bindRows_names DriverEntry.all fun e _ => h e
  have found (e : DriverEntry) :
      ((DriverEntry.all.map fun e => (e, e.calledName exports)).lookup e).getD "" =
        e.calledName exports := by
    cases e <;> rfl
  rw [← DriverEntry.rows_eq] at bound
  simp only [ofExports, bound, Except.map, ofBound, found]

theorem ofExports_of_missing {front back : List DriverEntry} (order : DriverEntry.all = front ++ e :: back)
    (h : ∀ e ∈ front, e.IsExported exports) (missing : ¬ e.IsExported exports) :
    (ofExports exports).1 = .error (.missingSymbol (Text.joined "/" e.names)) := by
  have unbound := bindRows_names_of_missing h missing back
  rw [← order, ← DriverEntry.rows_eq] at unbound
  simp only [ofExports, unbound, Except.map]

/-- **A library can be bound exactly if it exports every entry point.** -/
theorem exists_ofExports_iff :
    (∃ b, (ofExports exports).1 = .ok b) ↔ ∀ e : DriverEntry, e.IsExported exports := by
  constructor
  · rintro ⟨b, bound⟩ e
    refine Decidable.byContradiction fun missing => ?_
    -- the first of the entry points that are missing would have been told
    let lacks : DriverEntry → Bool := fun e => !decide (e.IsExported exports)
    obtain ⟨first, found⟩ : ∃ first, DriverEntry.all.find? lacks = some first :=
      Option.isSome_iff_exists.1 (List.find?_isSome.2 ⟨e, e.mem_all, by simpa [lacks] using missing⟩)
    obtain ⟨lacking, front, back, order, before⟩ := List.find?_eq_some_iff_append.1 found
    have told := ofExports_of_missing order (fun e he => by simpa [lacks] using before e he)
      (by simpa [lacks] using lacking)
    rw [bound] at told
    cases told
  · exact fun h => ⟨_, ofExports_of_forall_isExported h⟩

end DriverBinding

/-! ### Opening -/

section Opening

variable {opener : Opener} {exports : Exports} {path : Path} {front : List Path}

/-- **The first candidate that can be opened** is the one whose exports count. -/
theorem firstOpened_append (failed : ∀ p ∈ front, ∃ reason, opener p = .error reason)
    (opened : opener path = .ok exports) (reason : String) (back : List Path) :
    firstOpened opener reason (front ++ path :: back) = .ok exports := by
  induction front generalizing reason with
  | nil => rw [List.nil_append, firstOpened, opened]
  | cons p front ih =>
    obtain ⟨⟨refusal, refused⟩, rest⟩ := List.forall_mem_cons.1 failed
    rw [List.cons_append, firstOpened, refused]
    exact ih rest _

/-- If none can be opened, what is said is what was said of the last one. -/
theorem firstOpened_concat (failed : ∀ p ∈ front, ∃ reason, opener p = .error reason) {refusal : String}
    (refused : opener path = .error refusal) (reason : String) :
    firstOpened opener reason (front ++ [path]) = .error (Path.display path ++ ": " ++ refusal) := by
  induction front generalizing reason with
  | nil =>
    rw [List.nil_append, firstOpened, refused]
    rfl
  | cons p front ih =>
    obtain ⟨⟨other, refused'⟩, rest⟩ := List.forall_mem_cons.1 failed
    rw [List.cons_append, firstOpened, refused']
    exact ih rest _

end Opening

end GpuDriver.Library

/-! ### Calls -/

namespace GpuDriver.Driver

/-- The entry point that a call of the driver is for. Only the texts of a status have none. -/
def Call.entry? : Call → Option Library.DriverEntry
  | .init _ => some .init
  | .version => some .driverGetVersion
  | .deviceCount => some .deviceGetCount
  | .device _ => some .deviceGet
  | .deviceAttribute .. => some .deviceGetAttribute
  | .retainPrimary _ => some .primaryCtxRetain
  | .releasePrimary _ => some .primaryCtxRelease
  | .currentContext => some .ctxGetCurrent
  | .setCurrentContext _ => some .ctxSetCurrent
  | .currentDevice => some .ctxGetDevice
  | .createContext .. => some .ctxCreate
  | .destroyContext _ => some .ctxDestroy
  | .createLink => some .linkCreate
  | .addLinkInput .. => some .linkAddData
  | .completeLink _ => some .linkComplete
  | .destroyLink _ => some .linkDestroy
  | .loadModule _ => some .moduleLoad
  | .loadModuleData _ => some .moduleLoadData
  | .unloadModule _ => some .moduleUnload
  | .function .. => some .moduleGetFunction
  | .global .. => some .moduleGetGlobal
  | .launch _ => some .launchKernel
  | .errorName _ | .errorText _ => none

end GpuDriver.Driver

namespace GpuDriver.Library

namespace DriverBinding

variable {b : DriverBinding} {exports : Exports}

/-- The call is answered by calling a symbol once and reading what that leaves. -/
def Calls (b : DriverBinding) (c : Driver.Call) (symbol : String) : Prop :=
  ∃ (arguments : List Argument) (read : NativeReply → c.Value), ∀ {σ : Type} (native : Native σ)
    (t : ThreadId) (files : FileTree) (s : σ),
    b.backend native t files c s =
      ((native ⟨symbol, arguments⟩ s).1.outcome read, (native ⟨symbol, arguments⟩ s).2)

/-- The call is answered with a value and calls nothing. -/
def Skips (b : DriverBinding) (c : Driver.Call) (value : c.Value) : Prop :=
  ∀ {σ : Type} (native : Native σ) (t : ThreadId) (files : FileTree) (s : σ),
    b.backend native t files c s = (.ok value, s)

/-- **Every call goes to the entry point that it is for.** -/
theorem calls_of_entry? (b : DriverBinding) {c : Driver.Call} {e : DriverEntry}
    (h : c.entry? = some e) : b.Calls c (b.symbol e) := by
  cases c <;> cases h <;> exact ⟨_, _, fun _ _ _ _ => rfl⟩

section StatusText

variable {σ : Type} {symbol : String} (native : Native σ) (status : Status) (s : σ)

theorem statusText_of_mem (present : symbol ∈ exports) :
    statusText native (exports.contains symbol) symbol status s =
      ((native ⟨symbol, [.number status.code]⟩ s).1.outcome fun r =>
        r.data.map fun d => Utf8.decodeLossy (upToNul d), (native ⟨symbol, [.number status.code]⟩ s).2) :=
  if_pos (List.contains_iff_mem.2 present)

theorem statusText_of_not_mem (missing : symbol ∉ exports) :
    statusText native (exports.contains symbol) symbol status s = (.ok none, s) :=
  if_neg fun present => missing (List.contains_iff_mem.1 present)

end StatusText

/-- What a binding does with the calls of a driver, from what its library exports. -/
structure Serves (b : DriverBinding) (exports : Exports) : Prop where
  entries : ∀ c e, Driver.Call.entry? c = some e → b.Calls c (e.calledName exports)
  errorName : ∀ status, if "cuGetErrorName" ∈ exports then
    b.Calls (.errorName status) "cuGetErrorName" else b.Skips (.errorName status) none
  errorText : ∀ status, if "cuGetErrorString" ∈ exports then
    b.Calls (.errorText status) "cuGetErrorString" else b.Skips (.errorText status) none

theorem serves_of_ofExports (bound : (ofExports exports).1 = .ok b) : b.Serves exports := by
  have exported := exists_ofExports_iff.1 ⟨b, bound⟩
  obtain rfl : _ = b := Except.ok.inj ((ofExports_of_forall_isExported exported).symm.trans bound)
  refine ⟨fun c e h => calls_of_entry? _ h, fun status => ?_, fun status => ?_⟩
  · split
    · exact ⟨_, _, fun native _ _ s => statusText_of_mem native status s ‹_›⟩
    · exact fun native _ _ s => statusText_of_not_mem native status s ‹_›
  · split
    · exact ⟨_, _, fun native _ _ s => statusText_of_mem native status s ‹_›⟩
    · exact fun native _ _ s => statusText_of_not_mem native status s ‹_›

end DriverBinding

/-- The names of the functions for the texts of a status. -/
def textNames : List String := ["cuGetErrorName", "cuGetErrorString"]

/-- **A driver library is opened and bound.** Of the candidates the first that can be opened counts,
whatever stands behind it and whether that could be opened or not; if none can be, the last one is told. A
library can be bound exactly if it exports every entry point under one of its names. Then every call goes
to its own entry point, by the name with a version if that is exported and else by the one without. If it
cannot be bound, the names of the first entry point that is missing are told. The functions for the texts
of a status need not be there; where they are they are called, and else there is no text. -/
theorem driver_opened_and_bound (opener : Opener) (candidates : List Path) (given : candidates ≠ []) :
    (∀ front path back exports, candidates = front ++ path :: back →
      (∀ p ∈ front, ∃ reason, opener p = .error reason) → opener path = .ok exports →
        openDriver opener candidates = DriverBinding.ofExports exports ∧
          ∀ (opener' : Opener) (back' : List Path),
            (∀ p ∈ front ++ [path], opener' p = opener p) →
              openDriver opener' (front ++ path :: back') = openDriver opener candidates) ∧
    ((∀ p ∈ candidates, ∃ reason, opener p = .error reason) →
      ∃ reason, opener (candidates.getLast given) = .error reason ∧
        (openDriver opener candidates).1 =
          .error (.libraryLoad (Path.display (candidates.getLast given) ++ ": " ++ reason))) ∧
    ∀ exports : Exports,
      ((∃ b, (DriverBinding.ofExports exports).1 = .ok b) ↔
        ∀ e : DriverEntry, ∃ name ∈ e.names, name ∈ exports) ∧
      (∀ b, (DriverBinding.ofExports exports).1 = .ok b → b.Serves exports) ∧
      (∀ front e back, DriverEntry.all = front ++ e :: back →
        (∀ e' ∈ front, ∃ name ∈ e'.names, name ∈ exports) → (∀ name ∈ e.names, name ∉ exports) →
          (DriverBinding.ofExports exports).1 = .error (.missingSymbol (Text.joined "/" e.names))) ∧
      ((∃ b, (DriverBinding.ofExports exports).1 = .ok b) ↔
        ∃ b, (DriverBinding.ofExports (exports.filter (· ∉ textNames))).1 = .ok b) := by
  refine ⟨?_, ?_, fun exports => ⟨DriverBinding.exists_ofExports_iff,
    fun b => DriverBinding.serves_of_ofExports, ?_, ?_⟩⟩
  · rintro front path back exports rfl failed opened
    have counts : openDriver opener (front ++ path :: back) = DriverBinding.ofExports exports := by
      rw [openDriver, firstOpened_append failed opened]
    refine ⟨counts, fun opener' back' alike => ?_⟩
    have failed' : ∀ p ∈ front, ∃ reason, opener' p = .error reason := fun p hp => by
      rw [alike p (List.mem_append_left _ hp)]
      exact failed p hp
    have opened' : opener' path = .ok exports := by
      rw [alike path (List.mem_append_right _ (List.mem_singleton_self _)), opened]
    rw [counts, openDriver, firstOpened_append failed' opened']
  · intro failed
    obtain ⟨reason, refused⟩ := failed _ (List.getLast_mem given)
    have front : ∀ p ∈ candidates.dropLast, ∃ reason, opener p = .error reason := fun p hp =>
      failed p ((List.dropLast_sublist _).mem hp)
    refine ⟨reason, refused, ?_⟩
    have told := firstOpened_concat front refused noCandidates
    rw [List.dropLast_concat_getLast given] at told
    rw [openDriver, told]
  · intro front e back order before missing
    exact DriverBinding.ofExports_of_missing order before fun ⟨name, named, exported⟩ =>
      missing name named exported
  · have apart : ∀ e : DriverEntry, ∀ name ∈ e.names, name ∉ textNames := by
      intro e
      cases e <;> decide
    rw [DriverBinding.exists_ofExports_iff, DriverBinding.exists_ofExports_iff]
    refine forall_congr' fun e => exists_congr fun name => and_congr_right fun named => ?_
    simp [apart e name named]

/-! ### Three candidates -/

/-- A library that exports every function without a version, and one function with it too. -/
def olderExports : Exports := DriverEntry.all.map DriverEntry.plainName ++ ["cuCtxCreate_v2"]

/-- Opens the second and the third of three paths. -/
def secondOpener : Opener := fun path =>
  if path = [0x62] then .ok olderExports else if path = [0x63] then .ok [] else .error "no file"

/-- Of three candidates the second is opened, though the third could be opened too. The function that has
a version there is called by it and another is not; there are no texts. Of two candidates that cannot be
opened the second is told. Of a library without one of the functions the names of that are
told. -/
theorem driver_opened_and_bound_second :
    openDriver secondOpener [[0x61], [0x62], [0x63]] = DriverBinding.ofExports olderExports ∧
    (∃ b, (DriverBinding.ofExports olderExports).1 = .ok b ∧
      b.Calls (.createContext 0 ⟨0⟩) "cuCtxCreate_v2" ∧ b.Calls (.destroyContext 1) "cuCtxDestroy" ∧
        b.Skips (.errorName ⟨1⟩) none) ∧
    (openDriver secondOpener [[0x61], [0x64]]).1 = .error (.libraryLoad "d: no file") ∧
    (DriverBinding.ofExports (olderExports.filter (· ≠ "cuLinkCreate"))).1 =
      .error (.missingSymbol "cuLinkCreate_v2/cuLinkCreate") := by
  obtain ⟨opened, -, bound⟩ := driver_opened_and_bound secondOpener [[0x61], [0x62], [0x63]] (by simp)
  obtain ⟨-, refused, -⟩ := driver_opened_and_bound secondOpener [[0x61], [0x64]] (by simp)
  obtain ⟨⟨-, binds⟩, serves, -, -⟩ := bound olderExports
  refine ⟨?_, ?_, ?_, ?_⟩
  · exact (opened [[0x61]] [0x62] [[0x63]] olderExports rfl (by simp [secondOpener]) rfl).1
  · obtain ⟨b, hb⟩ := binds fun e => by cases e <;> decide
    have create : DriverEntry.ctxCreate.calledName olderExports = "cuCtxCreate_v2" := by decide
    have destroy : DriverEntry.ctxDestroy.calledName olderExports = "cuCtxDestroy" := by decide
    exact ⟨b, hb, create ▸ (serves b hb).entries (.createContext 0 ⟨0⟩) .ctxCreate rfl,
      destroy ▸ (serves b hb).entries (.destroyContext 1) .ctxDestroy rfl, (serves b hb).errorName ⟨1⟩⟩
  · obtain ⟨reason, told, failed⟩ := refused (by simp [secondOpener])
    obtain rfl : "no file" = reason := Except.error.inj told
    exact failed
  · exact (bound _).2.2.1 (DriverEntry.all.take 12) .linkCreate (DriverEntry.all.drop 13) rfl
      (by decide) (by decide)

end GpuDriver.Library
