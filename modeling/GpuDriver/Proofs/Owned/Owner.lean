import GpuDriver.Proofs.InProcess.ModuleSymbols

/-!
# Modules know their owner

To load a module takes two calls of the driver: one asks for the current context, the other loads. In
between other threads come to their turn, who create, destroy and bind contexts of their own. None of that
moves the stack of the thread that loads; so if the load succeeds at all, it does so in the context that
was asked for (`Owned.Module.context_recorded`).
-/

namespace GpuDriver

open Owned InProcess InProcess.State

/-! ### Several threads -/

namespace InProcess

/-- An in-process driver that other threads use as well. -/
structure Shared where
  /-- Its books. -/
  books : State
  /-- What other threads call before each of the next calls that are made here. -/
  others : List (List Event)

namespace Shared

/-- The books when the others have had their turn. -/
def turn (d : Shared) : State := d.books.run (d.others.headD [])

/-- The driver as one of the threads sees it: before each of its calls the others have their turn. -/
def driver : Driver.Backend Shared := fun t files c d =>
  (d.turn.reply ⟨t, files, c⟩, ⟨d.turn.after ⟨t, files, c⟩, d.others.tail⟩)

/-- The calls of the others are made on other threads. -/
def Foreign (t : ThreadId) (d : Shared) : Prop := ∀ calls ∈ d.others, ∀ e ∈ calls, e.thread ≠ t

/-- A platform with that driver. -/
def platform (nvrtc : Nvrtc.Backend Shared) (system : System) : Platform Shared where
  toSystem := system
  driver := driver
  nvrtc

variable {t : ThreadId} {d : Shared}

theorem Foreign.head (h : Foreign t d) : ∀ e ∈ d.others.headD [], e.thread ≠ t := by
  intro e he
  cases hd : d.others with
  | nil =>
    rw [hd] at he
    cases he
  | cons calls rest =>
    rw [hd] at he
    exact h calls (hd ▸ List.mem_cons_self) e he

theorem Foreign.tail (h : Foreign t d) (books : State) : Foreign t ⟨books, d.others.tail⟩ :=
  fun calls hc => h calls (List.mem_of_mem_tail hc)

/-- A call that succeeds is a success of the driver after the turn of the others. -/
theorem of_call {nvrtc : Nvrtc.Backend Shared} {system : System} {c : Driver.Call} {value : c.Value}
    {w w' : World Shared} (h : (platform nvrtc system).call t c w = (.ok value, w')) :
    w.native.turn.reply ⟨t, w.files, c⟩ = .ok value ∧
      w'.native = ⟨w.native.turn.after ⟨t, w.files, c⟩, w.native.others.tail⟩ := by
  have answered := Platform.call_fst_eq_ok_iff.1 (congrArg Prod.fst h)
  have left := (congrArg Prod.snd h).symm.trans (congrArg Prod.snd (Platform.call_of_ok answered))
  subst left
  exact ⟨answered, rfl⟩

end Shared

/-- Other threads do not move the stack of a thread. -/
theorem stackOf_run_of_foreign (s : State) {t : ThreadId} {es : List Event}
    (foreign : ∀ e ∈ es, e.thread ≠ t) : (s.run es).stackOf t = s.stackOf t := by
  induction es generalizing s with
  | nil => rfl
  | cons e es ih =>
    obtain ⟨here, rest⟩ := List.forall_mem_cons.1 foreign
    exact (ih _ rest).trans ((change_after s e).stackOf_eq (Or.inl (Ne.symm here)))

end InProcess

/-! ### Loading -/

namespace Owned.Module

variable {nvrtc : Nvrtc.Backend Shared} {system : System} {t : ThreadId} {w w' : World Shared}
  {m : Owned.Module}

/-- What is loaded by a call that comes after the question for the current context belongs to the context
that was answered. -/
theorem owner_of_calls {c : Driver.Call} {asked : Option Handle} {w₁ : World Shared}
    {value : c.Value} {h : Handle} (hi : Integrity w.native.books) (foreign : w.native.Foreign t)
    (first : Driver.currentContext (Shared.platform nvrtc system) t w = (.ok asked, w₁))
    (second : (Shared.platform nvrtc system).call t c w₁ = (.ok value, w'))
    (loads : Success.loaded? ⟨c, value⟩ = some h) :
    Integrity w'.native.books ∧ ∃ recorded, w'.native.books.modules.get? h = some recorded ∧
      asked = some recorded.context := by
  obtain ⟨shown, w₂, called, first⟩ := Act.bind_eq_ok_iff.1 first
  obtain ⟨rfl, rfl⟩ := Act.pure_eq_ok_iff.1 first
  obtain ⟨top, native₁⟩ := Shared.of_call called
  obtain ⟨answered, native'⟩ := Shared.of_call second
  have hi₁ : Integrity w.native.turn := hi.run _
  have hi₂ : Integrity w₂.native.turn := by
    rw [native₁]
    exact (hi₁.change (change_after _ ⟨t, w.files, .currentContext⟩)).run _
  rw [native']
  refine ⟨hi₂.change (change_after _ _), ?_⟩
  obtain ⟨text, recorded, current, -, found, -⟩ :=
    module_of_loaded? ((loaded?_of_ok answered).trans loads)
  refine ⟨recorded, found, ?_⟩
  obtain ⟨-, now, alive⟩ := current_eq_ok_iff.1 current
  -- between question and load only other threads had their turn
  have moved : w₂.native.turn.stackOf t = w.native.turn.stackOf t := by
    rw [native₁]
    exact stackOf_run_of_foreign _ (foreign.tail _).head
  have same : shown = recorded.context := by
    rw [← (currentContext_eq_ok_iff.1 top).2, State.top, ← moved]
    rw [State.top] at now
    rw [now]
    rfl
  have nonzero : recorded.context ≠ 0 := (hi₂.key_bounds (k := .context) alive).1.ne'
  rw [same, if_neg nonzero]

/-- **A module knows its owner.** Whatever happened before, and whatever other threads call before and
between the calls that a thread makes to load a module, from a file or from memory: if the load succeeds,
then the module remembers the context that the driver has recorded as its owner. From then on, in any run
of any threads, its handle is valid exactly if that context is alive and the module was not unloaded. -/
theorem context_recorded (devices : Int) (capability : Int × Int) (es : List Event)
    (nvrtc : Nvrtc.Backend Shared) (system : System) (t : ThreadId) (w w' : World Shared)
    (m : Owned.Module)
    (books : w.native.books = (fresh devices capability).run es) (foreign : w.native.Foreign t)
    (loaded : (∃ path, Module.load (Shared.platform nvrtc system) t path w = (.ok m, w')) ∨
      ∃ image, Module.loadData (Shared.platform nvrtc system) t image w = (.ok m, w')) :
    let s := w'.native.books
    ∃ recorded, s.modules.get? m.handle = some recorded ∧ m.context = some recorded.context ∧
      ∀ later, (m.handle ∈ (s.run later).modules.keys ↔
        recorded.context ∈ (s.run later).contexts.keys ∧
          .unloadModule m.handle ∉ s.succeeded later) := by
  intro s
  have hi : Integrity w.native.books := books ▸ integrity_run devices capability es
  have owned : Integrity s ∧ ∃ recorded, s.modules.get? m.handle = some recorded ∧
      m.context = some recorded.context := by
    obtain ⟨path, loaded⟩ | ⟨image, loaded⟩ := loaded
    · obtain ⟨octets, w₀, checked, loaded⟩ := Act.bind_eq_ok_iff.1 loaded
      obtain ⟨-, rfl⟩ := Act.ofExcept_eq_ok_iff.1 checked
      obtain ⟨asked, w₁, first, loaded⟩ := Act.bind_eq_ok_iff.1 loaded
      obtain ⟨h, w₂, second, loaded⟩ := Act.bind_eq_ok_iff.1 loaded
      obtain ⟨rfl, rfl⟩ := Act.pure_eq_ok_iff.1 loaded
      exact owner_of_calls hi foreign (Act.mapError_eq_ok_iff.1 first)
        (Act.mapError_eq_ok_iff.1 second) rfl
    · obtain ⟨asked, w₁, first, loaded⟩ := Act.bind_eq_ok_iff.1 loaded
      obtain ⟨h, w₂, second, loaded⟩ := Act.bind_eq_ok_iff.1 loaded
      obtain ⟨rfl, rfl⟩ := Act.pure_eq_ok_iff.1 loaded
      exact owner_of_calls hi foreign first second rfl
  obtain ⟨hi', recorded, found, known⟩ := owned
  exact ⟨recorded, found, known, mem_modules_run_iff hi' found⟩

/-- While a thread loads a module, another one makes a context and binds the first thread's, in between
the two calls too. The module remembers its own, and is gone when that is destroyed. -/
theorem context_recorded_disturbed :
    let p := Shared.platform (fun _ d => (.error .crash, d)) .bare
    let made : Event := ⟨1, {}, .createContext 0 ⟨0⟩⟩
    let bound : Event := ⟨1, {}, .setCurrentContext 0x1100⟩
    let w : World Shared := { native :=
      { books := (fresh 1 (7, 0)).run contextRun, others := [[made, bound], [bound, made]] } }
    ∃ w', Module.loadData p 0 (Utf8.encode Ptx.octetModule) w = (.ok ⟨0x1400, some 0x1100⟩, w') ∧
      ∃ recorded, w'.native.books.modules.get? 0x1400 = some recorded ∧
        recorded.context = 0x1100 ∧
        0x1400 ∉ (w'.native.books.run [⟨0, {}, .destroyContext 0x1100⟩]).modules.keys := by
  intro p made bound w
  let w₁ : World Shared :=
    { native := ⟨(fresh 1 (7, 0)).run (contextRun ++ [made, bound]), [[bound, made]]⟩ }
  have asked : Driver.currentContext p 0 w = (.ok (some 0x1100), w₁) := rfl
  have current : w₁.native.turn.current 0 = .ok 0x1100 := by decide +kernel
  have answered : w₁.native.turn.reply (octetLoad 0) = .ok (0x1400 : Handle) :=
    congrArg Prod.fst (loadImage_octetModule current (by decide))
  let w₂ : World Shared := { native := ⟨w₁.native.turn.after (octetLoad 0), []⟩ }
  have called : p.call 0 (.loadModuleData (Utf8.encode Ptx.octetModule)) w₁ =
      (.ok (0x1400 : Handle), w₂) := Platform.call_of_ok answered
  have loaded : Module.loadData p 0 (Utf8.encode Ptx.octetModule) w =
      (.ok ⟨0x1400, some 0x1100⟩, w₂) := (Act.bind_of_ok asked).trans (Act.bind_of_ok called)
  have foreign : w.native.Foreign 0 := by
    simp [Shared.Foreign, w, made, bound]
  obtain ⟨recorded, found, known, life⟩ := context_recorded 1 (7, 0) contextRun _ _ 0 w w₂ _ rfl
    foreign (Or.inr ⟨_, loaded⟩)
  have owner : recorded.context = 0x1100 := (Option.some.inj known).symm
  refine ⟨w₂, loaded, recorded, found, owner, fun alive => ?_⟩
  have orphan := ((life [⟨0, {}, .destroyContext 0x1100⟩]).1 alive).1
  have left : w₂.native.books = _ := after_octetLoad current (by decide)
  rw [left, owner] at orphan
  revert orphan
  decide

end Owned.Module

end GpuDriver
