import GpuDriver.Proofs.InProcess.Run
import GpuDriver.Proofs.InProcess.Success

/-!
# What a call can do to the books

`Change t s c s'` lists, kind by kind, what a call `c` made on the thread `t` can make of the books `s`,
together with what must have held before. Every event is one of these changes (`State.change_after`); a
property of the books is proved to be invariant by going through them.
-/

namespace GpuDriver.InProcess

open State

/-- The books `s'` can be what the call leaves of the books `s`. -/
inductive Change (t : ThreadId) (s : State) : Driver.Call → State → Prop
  /-- A call that asks, or that fails without a trace. -/
  | nothing (c : Driver.Call) : Change t s c s
  /-- A load that fails for want of device memory. -/
  | memory (c : Driver.Call) {globals : List Ptx.Global} {cursor : Address}
      (up : s.initialized = true) (full : place s.nextAddress .empty globals = (none, cursor)) :
      Change t s c { s with nextAddress := cursor }
  /-- The driver is started. -/
  | start (flags : Nat) (device : s.deviceCount ≠ 0) :
      Change t s (.init flags) { s with initialized := true }
  /-- A primary context is retained once more. -/
  | retainAgain {d : Device} {p : Primary} (up : s.initialized = true)
      (retained : s.primaries.get? d.ordinal = some p) :
      Change t s (.retainPrimary d)
        { s with primaries := s.primaries.insert d.ordinal { p with retains := p.retains + 1 } }
  /-- A primary context is created. -/
  | retainFirst {d : Device} (up : s.initialized = true) (known : s.HasDevice d)
      (unretained : s.primaries.get? d.ordinal = none) :
      Change t s (.retainPrimary d) { s with
        lastHandle := s.lastHandle + handleStep
        contexts := s.contexts.insert (s.lastHandle + handleStep) ⟨d, true⟩
        primaries := s.primaries.insert d.ordinal ⟨s.lastHandle + handleStep, 1⟩ }
  /-- A primary context is released and stays alive. -/
  | releaseOne {d : Device} {p : Primary} (up : s.initialized = true)
      (retained : s.primaries.get? d.ordinal = some p) (more : 1 < p.retains) :
      Change t s (.releasePrimary d)
        { s with primaries := s.primaries.insert d.ordinal { p with retains := p.retains - 1 } }
  /-- A primary context is released for the last time. -/
  | releaseLast {d : Device} {p : Primary} (up : s.initialized = true)
      (retained : s.primaries.get? d.ordinal = some p) (last : p.retains ≤ 1) :
      Change t s (.releasePrimary d)
        { s.dropContext p.context with primaries := s.primaries.erase d.ordinal }
  /-- The top of the stack is taken off. -/
  | pop (up : s.initialized = true) :
      Change t s (.setCurrentContext 0) (s.withStack t (s.stackOf t).tail)
  /-- The top of the stack is replaced. -/
  | replace {c : Handle} (up : s.initialized = true) (nonzero : c ≠ 0)
      (alive : c ∈ s.contexts.keys) :
      Change t s (.setCurrentContext c) (s.withStack t (c :: (s.stackOf t).tail))
  /-- A context is created. -/
  | create {flags : Nat} {d : Device} (up : s.initialized = true) (known : s.HasDevice d) :
      Change t s (.createContext flags d)
        { s.withStack t ((s.lastHandle + handleStep) :: s.stackOf t) with
          lastHandle := s.lastHandle + handleStep
          contexts := s.contexts.insert (s.lastHandle + handleStep) ⟨d, false⟩ }
  /-- A context that is current is destroyed. -/
  | destroyTop {c : Handle} {d : Device} (up : s.initialized = true)
      (alive : s.contexts.get? c = some ⟨d, false⟩) (top : s.top t = some c) :
      Change t s (.destroyContext c) ((s.dropContext c).withStack t (s.stackOf t).tail)
  /-- A context that is not current is destroyed. -/
  | destroyOther {c : Handle} {d : Device} (up : s.initialized = true)
      (alive : s.contexts.get? c = some ⟨d, false⟩) (top : s.top t ≠ some c) :
      Change t s (.destroyContext c) (s.dropContext c)
  /-- A link session is begun. -/
  | beginLink (up : s.initialized = true) :
      Change t s .createLink { s with
        lastHandle := s.lastHandle + handleStep
        links := s.links.insert (s.lastHandle + handleStep) [] }
  /-- A link session accepts an image. -/
  | extendLink {l : Handle} {kind : ImageKind} {data name : Bytes} {inputs : List LinkInput}
      {text : String} (up : s.initialized = true) (alive : s.links.get? l = some inputs)
      (read : imageText? data = some text) (valid : Ptx.isModule text = true) :
      Change t s (.addLinkInput l kind data name) { s with
        links := s.links.insert l (inputs ++ [⟨kind, Utf8.decodeLossy name, text⟩]) }
  /-- A link session is ended. -/
  | endLink {l : Handle} (up : s.initialized = true) (alive : l ∈ s.links.keys) :
      Change t s (.destroyLink l) { s with links := s.links.erase l }
  /-- A module is loaded. -/
  | load (call : Driver.Call) {c : Handle} {text : String} {globals : Table String Allocation}
      {cursor : Address} (current : s.current t = .ok c) (valid : Ptx.isModule text = true)
      (placed : place s.nextAddress .empty (Ptx.symbols text).globals = (some globals, cursor)) :
      Change t s call
        (addModule { s with nextAddress := cursor } c globals (Ptx.symbols text).entries).2
  /-- A module is unloaded, if it is there; the kernels that are listed for it go in any case. -/
  | unload {m : Handle} (up : s.initialized = true) :
      Change t s (.unloadModule m) (s.dropModule m).2
  /-- A launch is recorded. -/
  | launch {request : LaunchRequest} (record : LaunchRecord) (up : s.initialized = true) :
      Change t s (.launch request) { s with launches := s.launches ++ [record] }

/-- A driver that was started stays so. -/
theorem Change.initialized {t : ThreadId} {s s' : State} {c : Driver.Call} (h : Change t s c s')
    (up : s.initialized = true) : s'.initialized = true := by
  cases h <;> first | exact up | rfl

namespace State

variable {s : State} {t : ThreadId}

theorem change_retainPrimary {d : Device} {c : Handle} {s' : State}
    (h : s.retainPrimary d = (.ok c, s')) : Change t s (.retainPrimary d) s' := by
  obtain ⟨up, known, ⟨p, hp, -, rfl⟩ | ⟨hp, -, rfl⟩⟩ := retainPrimary_eq_ok_iff.1 h
  · exact .retainAgain up hp
  · exact .retainFirst up known hp

theorem change_releasePrimary {d : Device} {u : Unit} {s' : State}
    (h : s.releasePrimary d = (.ok u, s')) : Change t s (.releasePrimary d) s' := by
  obtain ⟨up, -, p, hp, ⟨more, rfl⟩ | ⟨last, rfl⟩⟩ := releasePrimary_eq_ok_iff.1 h
  · exact .releaseOne up hp more
  · exact .releaseLast up hp last

theorem change_setCurrentContext {c : Handle} {u : Unit} {s' : State}
    (h : s.setCurrentContext t c = (.ok u, s')) : Change t s (.setCurrentContext c) s' := by
  obtain ⟨up, ⟨rfl, rfl⟩ | ⟨nonzero, alive, rfl⟩⟩ := setCurrentContext_eq_ok_iff.1 h
  · exact .pop up
  · exact .replace up nonzero alive

theorem change_destroyContext {c : Handle} {u : Unit} {s' : State}
    (h : s.destroyContext t c = (.ok u, s')) : Change t s (.destroyContext c) s' := by
  obtain ⟨up, ⟨d, alive⟩, rfl⟩ := destroyContext_eq_ok_iff.1 h
  split
  · exact .destroyTop up alive ‹_›
  · exact .destroyOther up alive ‹_›

theorem change_unloadModule {m : Handle} : Change t s (.unloadModule m) (s.unloadModule m).2 := by
  rcases h : s.unloadModule m with ⟨e | u, s'⟩
  · obtain rfl | ⟨up, -, rfl⟩ := unloadModule_eq_error_cases h
    · exact .nothing _
    · exact .unload up
  · obtain ⟨up, -, rfl⟩ := unloadModule_eq_ok_iff.1 h
    exact .unload up

theorem change_loadImage (c : Driver.Call) (image : Bytes) :
    Change t s c (s.loadImage t image).2 := by
  rcases h : s.loadImage t image with ⟨e | m, s'⟩
  · obtain ⟨-, rfl⟩ | ⟨-, context, text, cursor, current, -, full, rfl⟩ := loadImage_eq_error_cases h
    · exact .nothing c
    · exact .memory c (current_eq_ok_iff.1 current).1 full
  · obtain ⟨context, text, globals, cursor, current, -, valid, placed, hm⟩ :=
      loadImage_eq_ok_iff.1 h
    rw [(Prod.mk.inj hm).2]
    exact .load c current valid placed

theorem change_loadFile (c : Driver.Call) (files : FileTree) (path : Path) :
    Change t s c (s.loadFile t files path).2 := by
  obtain ⟨e, -, h⟩ | ⟨image, -, h⟩ := loadFile_cases s t files path
  · rw [h]
    exact .nothing c
  · rw [h]
    exact change_loadImage c image

/-- **Every event is one of the changes.** -/
theorem change_after (s : State) (e : Event) : Change e.thread s e.call (s.after e) := by
  obtain ⟨t, files, c⟩ := e
  cases c with
  | init flags =>
    refine (keeps_init s flags).elim (.nothing _) fun a s' h => ?_
    obtain ⟨-, device, rfl⟩ := init_eq_ok_iff.1 h
    exact .start flags device
  | retainPrimary d => exact (keeps_retainPrimary s d).elim (.nothing _) fun _ _ => change_retainPrimary
  | releasePrimary d => exact (keeps_releasePrimary s d).elim (.nothing _) fun _ _ => change_releasePrimary
  | setCurrentContext c =>
    exact (keeps_setCurrentContext s t c).elim (.nothing _) fun _ _ => change_setCurrentContext
  | createContext flags d =>
    refine (keeps_createContext s t flags d).elim (.nothing _) fun a s' h => ?_
    obtain ⟨up, known, -, -, rfl⟩ := createContext_eq_ok_iff.1 h
    exact .create up known
  | destroyContext c => exact (keeps_destroyContext s t c).elim (.nothing _) fun _ _ => change_destroyContext
  | createLink =>
    refine (keeps_createLink s t).elim (.nothing _) fun a s' h => ?_
    obtain ⟨⟨c, current⟩, -, rfl⟩ := createLink_eq_ok_iff.1 h
    exact .beginLink (current_eq_ok_iff.1 current).1
  | addLinkInput l kind data name =>
    refine (keeps_addLinkInput s l kind data name).elim (.nothing _) fun a s' h => ?_
    obtain ⟨up, inputs, text, alive, -, read, valid, rfl⟩ := addLinkInput_eq_ok_iff.1 h
    exact .extendLink up alive read valid
  | destroyLink l =>
    refine (keeps_destroyLink s l).elim (.nothing _) fun a s' h => ?_
    obtain ⟨up, alive, rfl⟩ := destroyLink_eq_ok_iff.1 h
    exact .endLink up alive
  | loadModule path => exact change_loadFile _ files path
  | loadModuleData image => exact change_loadImage _ image
  | unloadModule m => exact change_unloadModule
  | launch request =>
    refine (keeps_launch s t request).elim (.nothing _) fun a s' h => ?_
    obtain ⟨c, f, buffer, current, -, -, -, -, -, -, -, rfl⟩ := launch_eq_ok_iff.1 h
    exact .launch _ (current_eq_ok_iff.1 current).1
  | version | deviceCount | device _ | deviceAttribute _ _ | currentContext | currentDevice
  | completeLink _ | function _ _ | global _ _ | errorName _ | errorText _ => exact .nothing _

/-- What every change keeps, a run keeps. -/
theorem run_induction_change {P : State → Prop}
    (kept : ∀ t s c s', P s → Change t s c s' → P s') {s : State} (h : P s) (es : List Event) :
    P (s.run es) :=
  run_induction (fun s e h => kept e.thread s e.call _ h (change_after s e)) h es

end State

end GpuDriver.InProcess
