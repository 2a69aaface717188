import GpuDriver.Proofs.InProcess.Integrity

/-!
# Calls that fail

A call that fails can still have changed the books. Most calls do not, since each changes nothing before
its last check (`after_eq_self_of_failed`). A load that fails leaves the cursor of device memory where it
had come to (`load_eq_error_cases`). To unload a module drops the kernels that are listed for its handle
before it is found that no module has it; it is that no reference dangles that makes this no change
(`Ownership.dropModule_eq_self`). So in the books of every run a call that fails leaves everything but
that cursor as it was, down to the inputs of every link session and the counts of every primary context,
and the calls of a run that fail and load nothing can be left out of it (`failed_calls`).
-/

namespace GpuDriver

/-- The call loads a module. -/
def Driver.Call.loads : Driver.Call → Bool
  | .loadModule _ | .loadModuleData _ => true
  | _ => false

/-- The call unloads a module. -/
def Driver.Call.unloads : Driver.Call → Bool
  | .unloadModule _ => true
  | _ => false

namespace InProcess

open State

variable {s : State} {e : Event} {status : Status}

/-! ### One call -/

/-- A call that neither loads nor unloads leaves no trace when it fails, whatever the books are. -/
theorem after_eq_self_of_failed (failed : s.reply e = .error status) (load : e.call.loads = false)
    (unload : e.call.unloads = false) : s.after e = s := by
  obtain ⟨t, files, c⟩ := e
  have left {α : Type} {result : Except Status α × State} (kept : Keeps s result)
      (failed : result.1 = .error status) : result.2 = s :=
    kept status result.2 (Prod.ext failed rfl)
  cases c with
  | init flags => exact left (keeps_init s flags) failed
  | retainPrimary d => exact left (keeps_retainPrimary s d) failed
  | releasePrimary d => exact left (keeps_releasePrimary s d) failed
  | setCurrentContext c => exact left (keeps_setCurrentContext s t c) failed
  | createContext flags d => exact left (keeps_createContext s t flags d) failed
  | destroyContext c => exact left (keeps_destroyContext s t c) failed
  | createLink => exact left (keeps_createLink s t) failed
  | addLinkInput l kind data name => exact left (keeps_addLinkInput s l kind data name) failed
  | destroyLink l => exact left (keeps_destroyLink s l) failed
  | launch request => exact left (keeps_launch s t request) failed
  | loadModule | loadModuleData => cases load
  | unloadModule => cases unload
  | version | deviceCount | device | deviceAttribute | currentContext | currentDevice
  | completeLink | function | global | errorName | errorText => rfl

/-- Where no reference dangles, no kernel is listed for a module that is not there. -/
theorem Ownership.dropModule_eq_self (h : Ownership s) {m : Handle} (absent : m ∉ s.modules.keys) :
    (s.dropModule m).2 = s := by
  have kernels : (s.functions.filter fun _ f => f.module ≠ m) = s.functions := by
    refine Table.filter_eq_self fun k f found => ?_
    obtain ⟨loaded, alive, -⟩ := h.function_listed found
    have other : f.module ≠ m := fun same => absent (same ▸ Table.mem_keys.2 ⟨loaded, alive⟩)
    simpa using other
  rw [dropModule, Table.erase_eq_self absent, kernels]

/-- To unload a module leaves no trace when it fails, where no reference dangles. -/
theorem Ownership.unloadModule_eq_self (h : Ownership s) {m : Handle}
    (failed : (s.unloadModule m).1 = .error status) : (s.unloadModule m).2 = s := by
  obtain same | ⟨-, absent, left⟩ := unloadModule_eq_error_cases (Prod.ext failed rfl)
  · exact same
  · exact left.trans (h.dropModule_eq_self absent)

/-- A call that fails and loads nothing leaves no trace, where no reference dangles. -/
theorem Ownership.after_eq_self (h : Ownership s) (failed : s.reply e = .error status)
    (load : e.call.loads = false) : s.after e = s := by
  cases unload : e.call.unloads with
  | false => exact after_eq_self_of_failed failed load unload
  | true =>
    obtain ⟨t, files, c⟩ := e
    cases c with
    | unloadModule m => exact h.unloadModule_eq_self failed
    | _ => cases unload

/-- The text that an event would load. -/
def Event.text? (e : Event) : Option String :=
  match e.call with
  | .loadModuleData image => imageText? image
  | .loadModule path => (e.files.read path).toOption.bind imageText?
  | _ => none

theorem Event.text?_loadModule {t : ThreadId} {files : FileTree} {path : Path} {image : Bytes}
    (found : files.read path = .ok image) :
    (⟨t, files, .loadModule path⟩ : Event).text? = imageText? image := by
  simp [Event.text?, found, Except.toOption]

/-- A load that fails does so without a trace, or for want of device memory in the middle of the
variables of its text. -/
theorem load_eq_error_cases (failed : s.reply e = .error status) (h : e.call.loads = true) :
    (status ≠ .outOfMemory ∧ s.after e = s) ∨
      status = .outOfMemory ∧ ∃ c text cursor, s.current e.thread = .ok c ∧ e.text? = some text ∧
        place s.nextAddress .empty (Ptx.symbols text).globals = (none, cursor) ∧
        s.after e = { s with nextAddress := cursor } := by
  obtain ⟨t, files, c⟩ := e
  cases c with
  | loadModuleData image => exact loadImage_eq_error_cases (Prod.ext failed rfl)
  | loadModule path =>
    obtain ⟨e, other, h⟩ | ⟨image, found, h⟩ := loadFile_cases s t files path
    · have hreply : (s.loadFile t files path).1 = .error status := failed
      rw [h, Except.error.injEq] at hreply
      exact Or.inl ⟨hreply ▸ other, congrArg Prod.snd h⟩
    · rw [Event.text?_loadModule found]
      exact loadImage_eq_error_cases (h.symm.trans (Prod.ext failed rfl))
  | _ => cases h

/-- A load that fails changes nothing but the cursor of device memory. -/
theorem after_of_failed_load (failed : s.reply e = .error status) (load : e.call.loads = true) :
    s.after e = { s with nextAddress := (s.after e).nextAddress } := by
  obtain ⟨-, untouched⟩ | ⟨-, _, _, cursor, -, -, -, left⟩ := load_eq_error_cases failed load
  · rw [untouched]
  · rw [left]

/-- A call that fails changes nothing but the cursor of device memory, where no reference dangles. -/
theorem Ownership.after_of_failed (h : Ownership s) (failed : s.reply e = .error status) :
    s.after e = { s with nextAddress := (s.after e).nextAddress } := by
  cases load : e.call.loads with
  | false => rw [h.after_eq_self failed load]
  | true => exact after_of_failed_load failed load

/-! ### Whole runs -/

/-- The calls of a run that succeed or load a module. -/
def State.effective (s : State) : List Event → List Event
  | [] => []
  | e :: es =>
    (if (s.reply e).isOk || e.call.loads then [e] else []) ++ (s.after e).effective es

/-- The other calls can be left out of a run. -/
theorem Integrity.run_effective (h : Integrity s) (es : List Event) :
    s.run (s.effective es) = s.run es := by
  induction es generalizing s with
  | nil => rfl
  | cons e es ih =>
    have later := ih (h.change (change_after s e))
    rw [effective, run_append, run_cons]
    split
    · rw [run_cons, run_nil, later]
    · rename_i neither
      obtain ⟨hreply, hload⟩ : (s.reply e).isOk = false ∧ e.call.loads = false := by
        simpa using neither
      cases hr : s.reply e with
      | ok value => simp [hr, Except.isOk, Except.toBool] at hreply
      | error status =>
        have hafter := h.after_eq_self hr hload
        rw [run_nil, hafter]
        exact hafter ▸ later

/-- **Calls that fail do not half-change the books.** After any run of any threads, a call that fails
leaves the books as they were, except that a load can leave the cursor of device memory elsewhere; and the
calls of a run that fail and load nothing can be left out of it. -/
theorem failed_calls (devices : Int) (capability : Int × Int) (es : List Event) :
    let s := (fresh devices capability).run es
    (∀ e status, s.reply e = .error status →
      s.after e = { s with nextAddress := (s.after e).nextAddress } ∧
        (e.call.loads = false → s.after e = s)) ∧
      ∀ later, s.run (s.effective later) = s.run later := by
  intro s
  have whole : Integrity s := integrity_run devices capability es
  exact ⟨fun e status failed => ⟨whole.after_of_failed failed, whole.after_eq_self failed⟩,
    whole.run_effective⟩

/-- A link session that one thread began refuses an empty image from another and stays as it was; and so
it does when its handle is taken for that of a module. -/
theorem failed_calls_link :
    let es : List Event := [⟨0, {}, .init 0⟩, ⟨0, {}, .retainPrimary ⟨1⟩⟩,
      ⟨1, {}, .createContext 0 ⟨0⟩⟩, ⟨1, {}, .createLink⟩]
    let s := (fresh 2 (7, 0)).run es
    let add : Event := ⟨2, {}, .addLinkInput 0x1300 .ptx [] []⟩
    let unload : Event := ⟨2, {}, .unloadModule 0x1300⟩
    (s.reply add = .error .invalidValue ∧ s.after add = s) ∧
      (s.reply unload = .error .invalidHandle ∧ s.after unload = s) ∧
        s.links.get? 0x1300 = some [] := by
  intro es s add unload
  have refused : s.reply add = .error .invalidValue := rfl
  have missing : s.reply unload = .error .invalidHandle := rfl
  obtain ⟨failed, -⟩ := failed_calls 2 (7, 0) es
  exact ⟨⟨refused, (failed add _ refused).2 rfl⟩, ⟨missing, (failed unload _ missing).2 rfl⟩, rfl⟩

end InProcess

end GpuDriver
