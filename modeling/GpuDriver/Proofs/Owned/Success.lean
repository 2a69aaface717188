import GpuDriver.Proofs.InProcess.Written
import GpuDriver.Proofs.Owned.Context
import GpuDriver.Proofs.Session.Books
import GpuDriver.Proofs.World

/-!
# Actions that succeed on the in-process driver

An action is evaluated call by call: each call that the driver answers gives its value and leaves the
world with the books of the driver after it (`Platform.call_of_step`). So a text that is a module is
linked (`Owned.linkPtx_of_isModule`), an image that holds one is loaded
(`Owned.Module.loadData_of_isModule`), and the kernels and variables of what was loaded can be looked up.
-/

namespace GpuDriver

open Owned InProcess InProcess.State

section InProcess

variable {ν : Type} {system : System} {t : ThreadId} {w : World (Bench ν)} {s' : State}

/-! ### Calls -/

/-- A call that the in-process driver answers. -/
theorem Platform.call_of_step {c : Driver.Call} {value : c.Value}
    (h : State.step t w.files c w.native.driver = (.ok value, s')) :
    (Platform.inProcess system).call t c w = (.ok value, w.withDriver s') := by
  simp only [Platform.call, Platform.ask, Platform.inProcess, Bench.inProcessDriver, h]
  rfl

/-- A call that the in-process driver refuses: the driver has texts for every status. -/
theorem Platform.call_of_step_error {c : Driver.Call} {status : Status}
    (h : State.step t w.files c w.native.driver = (.error status, s')) :
    (Platform.inProcess system).call t c w = (.error (.ofStatus status), w.withDriver s') := by
  simp only [Platform.call, Platform.ask, Platform.describe, Platform.inProcess,
    Bench.inProcessDriver, h]
  rfl

/-- The world with another state of the in-process runtime compiler. -/
def World.withCompiler (w : World (Bench ν)) (c : InProcess.Compiler) : World (Bench ν) :=
  { w with native := { w.native with compiler := c } }

/-- What a fault of the in-process runtime compiler is seen as. -/
def Nvrtc.Error.ofFault : Nvrtc.Fault → Nvrtc.Error
  | .code code => .ofCode code
  | .crash => .crash

/-- Any call of the in-process runtime compiler: it has a name for every code. -/
theorem Platform.callNvrtc_inProcess (c : Nvrtc.Call) :
    (Platform.inProcess system).callNvrtc c w =
      ((InProcess.Compiler.step c w.native.compiler).1.mapError .ofFault,
        w.withCompiler (InProcess.Compiler.step c w.native.compiler).2) := by
  simp only [Platform.callNvrtc, Platform.askNvrtc, Platform.inProcess, Bench.inProcessNvrtc]
  rcases InProcess.Compiler.step c w.native.compiler with ⟨(code | _) | value, compiler⟩ <;> rfl

/-- A call that the in-process runtime compiler answers. -/
theorem Platform.callNvrtc_of_step {c : Nvrtc.Call} {value : c.Value} {compiler : InProcess.Compiler}
    (h : InProcess.Compiler.step c w.native.compiler = (.ok value, compiler)) :
    (Platform.inProcess system).callNvrtc c w = (.ok value, w.withCompiler compiler) := by
  rw [callNvrtc_inProcess, h]
  rfl

theorem Platform.callNvrtc_eq_ok_iff {c : Nvrtc.Call} {value : c.Value} {w' : World (Bench ν)} :
    (Platform.inProcess system).callNvrtc c w = (.ok value, w') ↔
      (InProcess.Compiler.step c w.native.compiler).1 = .ok value ∧
        w.withCompiler (InProcess.Compiler.step c w.native.compiler).2 = w' := by
  rw [callNvrtc_inProcess, Prod.mk.injEq]
  rcases (InProcess.Compiler.step c w.native.compiler).1 with fault | answer <;> simp [Except.mapError]

theorem Platform.callNvrtc_eq_error_iff {c : Nvrtc.Call} {e : Nvrtc.Error} {w' : World (Bench ν)} :
    (Platform.inProcess system).callNvrtc c w = (.error e, w') ↔
      ∃ fault, (InProcess.Compiler.step c w.native.compiler).1 = .error fault ∧ .ofFault fault = e ∧
        w.withCompiler (InProcess.Compiler.step c w.native.compiler).2 = w' := by
  rw [callNvrtc_inProcess, Prod.mk.injEq]
  rcases (InProcess.Compiler.step c w.native.compiler).1 with fault | answer <;> simp [Except.mapError]

/-! ### Linking -/

namespace Owned

/-- A text without a NUL can be handed over as a name. -/
theorem nameOctets_of_not_mem {name : String} (clean : '\x00' ∉ name.toList) :
    Driver.nameOctets name = .ok (Utf8.encode name) := by
  simp [Driver.nameOctets, clean]

/-- A text with one cannot. -/
theorem nameOctets_of_mem {name : String} (bad : '\x00' ∈ name.toList) :
    Driver.nameOctets name = .error (.invalidName name) := by
  simp [Driver.nameOctets, bad]

/-- Nothing is answered under a name that holds a NUL. -/
theorem fst_nameOctets_bind_eq_ok_iff {σ β : Type} {name : String} {w : World σ} {b : β}
    {next : Bytes → Act σ Error β} :
    ((Act.ofExcept (Driver.nameOctets name) >>= next) w).1 = .ok b ↔
      '\x00' ∉ name.toList ∧ (next (Utf8.encode name) w).1 = .ok b := by
  rcases Decidable.em ('\x00' ∈ name.toList) with bad | clean
  · rw [Act.bind_of_error (Act.ofExcept_of_error (nameOctets_of_mem bad))]
    simp [bad]
  · rw [Act.bind_of_ok (Act.ofExcept_of_ok (nameOctets_of_not_mem clean))]
    simp [clean]

/-- What is handed over for an image is read as the image. -/
theorem imageText?_handedOver (kind : ImageKind) (image : Bytes) :
    imageText? (LinkSession.handedOver kind image) = imageText? image := by
  unfold LinkSession.handedOver
  split
  · exact imageText?_append_nul image
  · rfl

namespace LinkSession

variable {l : LinkSession} {inputs : List LinkInput}

theorem create_of_current {c : Handle} (current : w.native.driver.current t = .ok c) :
    create (Platform.inProcess system) t w = (.ok ⟨w.native.driver.lastHandle + handleStep, 0⟩,
      w.withDriver { w.native.driver with
        lastHandle := w.native.driver.lastHandle + handleStep
        links := w.native.driver.links.insert (w.native.driver.lastHandle + handleStep) [] }) := by
  have created := createLink_eq_ok_iff.2 ⟨⟨c, current⟩, rfl, rfl⟩
  exact Act.bind_of_ok (Platform.call_of_step (c := .createLink) created)

section Add

variable {kind : ImageKind} {data : Bytes} {name : String} (clean : '\x00' ∉ name.toList)

include clean

/-- A session counts an image that the driver accepts. -/
theorem add_of_addLinkInput {u : Unit} (answered : w.native.driver.addLinkInput l.handle kind
    (handedOver kind data) (Utf8.encode name) = (.ok u, s')) :
    l.add (Platform.inProcess system) t kind data name w =
      (.ok { l with inputCount := l.inputCount + 1 }, w.withDriver s') := by
  have called : (Platform.inProcess system).call t (.addLinkInput l.handle kind
      (handedOver kind data) (Utf8.encode name)) w = (.ok u, w.withDriver s') :=
    Platform.call_of_step (c := .addLinkInput l.handle kind _ _) answered
  refine (Act.bind_of_ok (Act.ofExcept_of_ok (nameOctets_of_not_mem clean))).trans ?_
  exact Act.bind_of_ok (Act.mapError_of_ok called)

theorem add_of_addLinkInput_error {status : Status} (answered : w.native.driver.addLinkInput l.handle
    kind (handedOver kind data) (Utf8.encode name) = (.error status, s')) :
    l.add (Platform.inProcess system) t kind data name w = (.error (.call (.ofStatus status)), w) := by
  have refused : (Platform.inProcess system).call t (.addLinkInput l.handle kind
      (handedOver kind data) (Utf8.encode name)) w = (.error (.ofStatus status), w) := by
    obtain rfl := keeps_addLinkInput _ _ _ _ _ _ _ answered
    exact Platform.call_of_step_error (c := .addLinkInput l.handle kind _ _) answered
  refine (Act.bind_of_ok (Act.ofExcept_of_ok (nameOctets_of_not_mem clean))).trans ?_
  exact Act.bind_of_error (Act.mapError_of_error refused)

end Add

section Alive

variable (up : w.native.driver.initialized = true)
  (alive : w.native.driver.links.get? l.handle = some inputs)

include up alive

/-- A session accepts a text that is read as a module. -/
theorem addPtx_of_isModule {ptx text name : String}
    (read : imageText? (Utf8.encode ptx) = some text) (valid : Ptx.isModule text = true)
    (clean : '\x00' ∉ name.toList) :
    l.addPtx (Platform.inProcess system) t ptx name w = (.ok { l with inputCount := l.inputCount + 1 },
      w.withDriver { w.native.driver with
        links := w.native.driver.links.insert l.handle (inputs ++ [⟨.ptx, name, text⟩]) }) := by
  have added := addLinkInput_of_isModule up alive ((imageText?_handedOver .ptx _).trans read) valid
    .ptx (Utf8.encode name)
  rw [Utf8.decodeLossy_encode] at added
  exact add_of_addLinkInput clean added

/-- A session joins what it has accepted if no kernel is defined twice. -/
theorem complete_of_nodup (given : inputs ≠ []) (distinct : (linkedEntries inputs).Nodup) :
    l.complete (Platform.inProcess system) t w = (.ok (Utf8.encode (linkedText inputs)), w) := by
  have joined := completeLink_eq_ok_iff.2 ⟨up, _, alive, given, distinct, rfl⟩
  exact Platform.call_of_step (congrArg w.native.driver.asked joined)

/-- It does not if one is. -/
theorem complete_of_not_nodup (given : inputs ≠ []) (twice : ¬ (linkedEntries inputs).Nodup) :
    l.complete (Platform.inProcess system) t w = (.error (.ofStatus .invalidImage), w) := by
  have refused : w.native.driver.completeLink l.handle = .error .invalidImage := by
    have given : inputs.isEmpty = false := by simpa using given
    rw [completeLink, link_eq_ok_iff.2 ⟨up, alive⟩]
    simp [bind, Except.bind, given, twice]
  exact Platform.call_of_step_error (congrArg w.native.driver.asked refused)

theorem destroy_of_get? : l.destroy (Platform.inProcess system) t w = (.ok (),
    w.withDriver { w.native.driver with links := w.native.driver.links.erase l.handle }) := by
  have ended := (destroyLink_eq_ok_iff (u := ())).2 ⟨up, Table.mem_keys.2 ⟨_, alive⟩, rfl⟩
  rw [l.destroy_eq]
  exact Platform.call_of_step (c := .destroyLink l.handle) ended

end Alive

end LinkSession

variable (system) in
/-- A text that is read as a module is linked to what is read with a line feed behind it, unless it defines
a kernel twice. Either way, nothing is left of the session but that its handle is gone. -/
theorem linkPtx_of_isModule {ptx text name : String} {c : Handle}
    (current : w.native.driver.current t = .ok c)
    (read : imageText? (Utf8.encode ptx) = some text) (valid : Ptx.isModule text = true)
    (clean : '\x00' ∉ name.toList) :
    ∃ links, linkPtx (Platform.inProcess system) t ptx name w =
      (if (Ptx.symbols text).entries.Nodup then .ok (Utf8.encode (text ++ "\n"))
        else .error (.call (.ofStatus .invalidImage)),
      w.withDriver { w.native.driver with
        lastHandle := w.native.driver.lastHandle + handleStep
        links }) := by
  have up : w.native.driver.initialized = true := (current_eq_ok_iff.1 current).1
  let l : LinkSession := ⟨w.native.driver.lastHandle + handleStep, 0⟩
  let s₁ : State := { w.native.driver with
    lastHandle := w.native.driver.lastHandle + handleStep
    links := w.native.driver.links.insert l.handle [] }
  let s₂ : State := { s₁ with links := s₁.links.insert l.handle [⟨.ptx, name, text⟩] }
  have created : LinkSession.create (Platform.inProcess system) t w = (.ok l, w.withDriver s₁) :=
    LinkSession.create_of_current current
  have added : l.addPtx (Platform.inProcess system) t ptx name (w.withDriver s₁) =
      (.ok { l with inputCount := 1 }, w.withDriver s₂) :=
    LinkSession.addPtx_of_isModule (w := w.withDriver s₁) up (Table.get?_insert_self ..) read valid
      clean
  let inSession : Act (Bench ν) Error Bytes := do
    let link ← l.addPtx (Platform.inProcess system) t ptx name
    (link.complete (Platform.inProcess system) t).mapError .call
  have alive : s₂.links.get? l.handle = some [⟨.ptx, name, text⟩] := Table.get?_insert_self ..
  have destroyed : l.destroy (Platform.inProcess system) t (w.withDriver s₂) =
      (.ok (), w.withDriver { s₂ with links := s₂.links.erase l.handle }) :=
    LinkSession.destroy_of_get? (w := w.withDriver s₂) up alive
  have entries : linkedEntries [⟨.ptx, name, text⟩] = (Ptx.symbols text).entries := by
    simp [linkedEntries]
  have joined : linkedText [⟨.ptx, name, text⟩] = text ++ "\n" := by simp [linkedText]
  refine ⟨s₂.links.erase l.handle, ?_⟩
  refine (Act.bind_of_ok (Act.mapError_of_ok created)).trans ?_
  split
  · rename_i distinct
    have completed : ({ l with inputCount := 1 } : LinkSession).complete (Platform.inProcess system) t
        (w.withDriver s₂) = (.ok (Utf8.encode (text ++ "\n")), w.withDriver s₂) :=
      joined ▸ LinkSession.complete_of_nodup (w := w.withDriver s₂) up alive (List.cons_ne_nil _ _)
        (entries ▸ distinct)
    have linked : inSession (w.withDriver s₁) = (.ok (Utf8.encode (text ++ "\n")), w.withDriver s₂) :=
      (Act.bind_of_ok added).trans (Act.mapError_of_ok completed)
    refine (Act.bind_of_ok (Act.orElseClean_of_ok linked)).trans ?_
    exact Act.bind_of_ok (Act.mapError_of_ok destroyed)
  · rename_i twice
    have refused : ({ l with inputCount := 1 } : LinkSession).complete (Platform.inProcess system) t
        (w.withDriver s₂) = (.error (.ofStatus .invalidImage), w.withDriver s₂) :=
      LinkSession.complete_of_not_nodup (w := w.withDriver s₂) up alive (List.cons_ne_nil _ _)
        (entries ▸ twice)
    have nonzero : l.handle ≠ 0 := (Nat.add_pos_right _ handleStep_pos).ne'
    have failed : inSession (w.withDriver s₁) =
        (.error (.call (.ofStatus .invalidImage)), w.withDriver s₂) :=
      (Act.bind_of_ok added).trans (Act.mapError_of_error refused)
    refine (Act.bind_of_error (Act.orElseClean_of_error failed)).trans ?_
    rw [l.destroy_eq] at destroyed
    simp only [LinkSession.drop, if_neg nonzero, destroyed]
    rfl

/-! ### Loading -/

theorem currentContext_of_current {c : Handle} (current : w.native.driver.current t = .ok c) :
    Driver.currentContext (Platform.inProcess system) t w = (.ok (Module.remembered c), w) := by
  obtain ⟨up, top, -⟩ := current_eq_ok_iff.1 current
  have shown : w.native.driver.currentContext t = .ok c :=
    currentContext_eq_ok_iff.2 ⟨up, by rw [top]; rfl⟩
  have asked : (Platform.inProcess system).call t .currentContext w = (.ok c, w) :=
    Platform.call_of_step (congrArg w.native.driver.asked shown)
  exact Act.bind_of_ok asked

namespace Module

variable (system) in
/-- A module is loaded from an image that holds one if its variables can be placed. -/
theorem loadData_of_isModule {image : Bytes} {text : String} {c : Handle}
    {globals : Table String Allocation} {cursor : Address}
    (current : w.native.driver.current t = .ok c) (read : imageText? image = some text)
    (valid : Ptx.isModule text = true)
    (placed : place w.native.driver.nextAddress .empty (Ptx.symbols text).globals =
      (some globals, cursor)) :
    let loaded := addModule { w.native.driver with nextAddress := cursor } c globals
      (Ptx.symbols text).entries
    Module.loadData (Platform.inProcess system) t image w =
      (.ok ⟨loaded.1, remembered c⟩, w.withDriver loaded.2) := by
  intro loaded
  have answered : (Platform.inProcess system).call t (.loadModuleData image) w =
      (.ok loaded.1, w.withDriver loaded.2) :=
    Platform.call_of_step (loadImage_eq_ok_iff.2 ⟨c, text, globals, cursor, current, read, valid,
      placed, rfl⟩)
  exact (Act.bind_of_ok (currentContext_of_current current)).trans (Act.bind_of_ok answered)

/-! ### Looking up -/

/-- A variable is found under a name without a NUL under which the driver finds it. -/
theorem fst_global_eq_ok_iff (m : Owned.Module) (name : String) {a : Allocation} :
    (m.global (Platform.inProcess system) t name w).1 = .ok a ↔
      '\x00' ∉ name.toList ∧ w.native.driver.global m.handle (Utf8.encode name) = .ok a := by
  refine fst_nameOctets_bind_eq_ok_iff.trans (and_congr_right fun _ => ?_)
  exact Act.fst_mapError_eq_ok_iff.trans Platform.call_fst_eq_ok_iff

/-- A kernel is found under a name without a NUL under which the driver finds it, and keeps that name. -/
theorem fst_function_eq_ok_iff (m : Owned.Module) (name : String) {f : Function} :
    (m.function (Platform.inProcess system) t name w).1 = .ok f ↔ '\x00' ∉ name.toList ∧
      w.native.driver.function m.handle (Utf8.encode name) = .ok f.handle ∧ f.name = name := by
  have asked (h : Handle) : (((Platform.inProcess system).call t (.function m.handle (Utf8.encode name))
      ).mapError Error.call w).1 = .ok h ↔
        w.native.driver.function m.handle (Utf8.encode name) = .ok h :=
    Act.fst_mapError_eq_ok_iff.trans Platform.call_fst_eq_ok_iff
  refine fst_nameOctets_bind_eq_ok_iff.trans (and_congr_right fun _ => ?_)
  refine Act.fst_bind_pure_eq_ok_iff.trans ?_
  simp only [asked]
  constructor
  · rintro ⟨h, found, rfl⟩
    exact ⟨found, rfl⟩
  · rintro ⟨found, rfl⟩
    exact ⟨_, found, rfl⟩

theorem exists_function_iff (m : Owned.Module) (name : String) :
    (∃ f, (m.function (Platform.inProcess system) t name w).1 = .ok f) ↔
      '\x00' ∉ name.toList ∧ ∃ f, w.native.driver.function m.handle (Utf8.encode name) = .ok f := by
  simp only [fst_function_eq_ok_iff]
  constructor
  · rintro ⟨f, clean, found, -⟩
    exact ⟨clean, f.handle, found⟩
  · rintro ⟨clean, h, found⟩
    exact ⟨⟨h, name⟩, clean, found, rfl⟩

end Module

end Owned

end InProcess

end GpuDriver
