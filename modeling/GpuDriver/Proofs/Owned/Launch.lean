import GpuDriver.Owned.Module
import GpuDriver.Proofs.InProcess.Launch
import GpuDriver.Proofs.Launch.Packing
import GpuDriver.Proofs.Owned.Success

/-!
# Launches of kernels that were looked up

A kernel that was looked up in a module can be launched as long as the module is loaded and its context
is the current one, whatever happened since (`Ready`). The record of the launch has the name that it was
looked up by, and either the number of its arguments or the size of their buffer.
-/

namespace GpuDriver

open Owned InProcess InProcess.State

/-! ### Arguments -/

namespace ParameterSlots

theorem count_ofList (arguments : List Bytes) : (ofList arguments).count = arguments.length := by
  rw [count, slots_ofList, List.length_map]

theorem length_arguments_ofList (arguments : List Bytes) :
    (ofList arguments).arguments.length = arguments.length := by
  rw [ParameterSlots.arguments, slots_ofList, sizes_ofList]
  simp

end ParameterSlots

/-! ### Kernels in later books -/

namespace InProcess

/-- The module is loaded, its context is the thread's current one, and the extents are allowed. -/
structure Ready (s : State) (t : ThreadId) (m : Handle) (config : LaunchConfig) : Prop where
  owned : ∃ loaded, s.modules.get? m = some loaded ∧ s.top t = some loaded.context
  grid : 1 ≤ config.grid.volume
  block : 1 ≤ config.block.volume ∧ config.block.volume ≤ 1024

section Later

variable {s s' : State} {m h : Handle} {name : String} (hi : Integrity s)
  (found : s.function m (Utf8.encode name) = .ok h) (later : Later s s')

include hi found later

/-- A handle that was found names its kernel, or nothing any more. -/
theorem kernel_eq_of_later {f : InProcess.Function} (hf : s'.functions.get? h = some f) :
    f = ⟨m, name⟩ := by
  have named : s.functions.get? h = some ⟨m, name⟩ := hi.function_found found
  have old : h ≤ s.lastHandle := (hi.key_bounds (k := .function) (Table.mem_keys.2 ⟨_, named⟩)).2
  have same := (later.functions old hf).symm.trans named
  exact Option.some.inj same

/-- It names its kernel as long as the module is loaded. -/
theorem kernel_of_later (hi' : Integrity s') {loaded : InProcess.Module}
    (alive : s'.modules.get? m = some loaded) : s'.functions.get? h = some ⟨m, name⟩ := by
  obtain ⟨before, module, listed⟩ := bind_eq_ok_iff.1 found
  have module := (module_eq_ok_iff.1 module).2
  obtain ⟨k, hk, listed⟩ := symbol_eq_ok_iff.1 listed
  obtain rfl : name = k := Utf8.encode_injective hk
  have old : m ≤ s.lastHandle := (hi.key_bounds (k := .module) (Table.mem_keys.2 ⟨_, module⟩)).2
  obtain rfl : before = loaded :=
    Option.some.inj (module.symm.trans (later.modules old alive))
  exact hi'.listed_function alive listed

end Later

end InProcess

/-! ### Launching -/

section Call

variable {ν : Type} {system : System}

/-- A request for a kernel that was found earlier is accepted exactly if the module is ready. Then the
record has the name that the kernel was found by. -/
theorem Platform.call_launch {s : State} {w : World (Bench ν)} {t : ThreadId} {m : Handle}
    {name : String} {request : LaunchRequest} {buffer : Option Nat} (hi : Integrity s)
    (hi' : Integrity w.native.driver) (later : Later s w.native.driver)
    (found : s.function m (Utf8.encode name) = .ok request.function)
    (one_way : ¬ (request.parameters.isSome ∧ request.options.isSome))
    (announced : request.Announces buffer) :
    (((Platform.inProcess system).call t (.launch request) w).1 = .ok () ↔
      Ready w.native.driver t m request.config) ∧
    (Ready w.native.driver t m request.config →
      (Platform.inProcess system).call t (.launch request) w = (.ok (), w.withDriver
        { w.native.driver with
          launches := w.native.driver.launches ++ [request.record name buffer] })) := by
  have launchable : Ready w.native.driver t m request.config →
      ∃ loaded, Launchable w.native.driver t request ⟨m, name⟩ loaded buffer := by
    rintro ⟨⟨loaded, alive, top⟩, grid, block⟩
    obtain ⟨_, known, -⟩ := bind_eq_ok_iff.1 found
    have started := later.started (module_eq_ok_iff.1 known).1
    have kernel := kernel_of_later hi found later hi' alive
    exact ⟨loaded, started, kernel, alive, top, hi'.owner_alive alive, grid, block, one_way,
      announced⟩
  constructor
  · rw [Platform.call_fst_eq_ok_iff]
    refine Iff.trans (reply_launch_eq_ok_iff w.files) ?_
    constructor
    · rintro ⟨f, loaded, b, h⟩
      obtain rfl := kernel_eq_of_later hi found later h.kernel
      exact ⟨⟨loaded, h.module, h.current⟩, h.grid, h.block⟩
    · intro ready
      obtain ⟨loaded, h⟩ := launchable ready
      exact ⟨_, loaded, buffer, h⟩
  · intro ready
    obtain ⟨loaded, h⟩ := launchable ready
    have answered := (launch_eq_ok_iff_launchable (u := ())).2 ⟨_, loaded, buffer, h, rfl⟩
    exact Platform.call_of_step (c := .launch request) answered

variable (system) in
/-- **Launches and their log.** In the books of any run, a launch is accepted exactly if it is in order,
and then leaves one record at the end of the log and nothing else. So the log of a run is the beginning
of the log of any longer run, and each record in it was left by an event of the run that was in order in
the books before it, with the context of the kernel's module as the current one. A kernel that was looked
up by a name can be launched, however the run goes on, exactly while its module is loaded, the module's
context is current and the extents are allowed; the record has that name, with the number of the
arguments, or none and the size of their buffer. -/
theorem launches_recorded (devices : Int) (capability : Int × Int) (es : List Event) :
    let s₀ := fresh devices capability
    let s := s₀.run es
    let p : Platform (Bench ν) := Platform.inProcess system
    (∀ t files request,
      (s.reply ⟨t, files, .launch request⟩ = .ok () ↔
        ∃ f loaded buffer, Launchable s t request f loaded buffer) ∧
      ∀ f loaded buffer, Launchable s t request f loaded buffer →
        s.after ⟨t, files, .launch request⟩ =
          { s with launches := s.launches ++ [request.record f.name buffer] }) ∧
    (∀ front back, es = front ++ back → (s₀.run front).launches <+: s.launches) ∧
    (∀ i r, s.launches[i]? = some r → Recorded s₀ es i r) ∧
    ∀ (w : World (Bench ν)) t (m : Owned.Module) name f, w.native.driver = s →
      (m.function p t name w).1 = .ok f →
      ∀ later (w' : World (Bench ν)) t' config, w'.native.driver = s.run later →
        let s' := s.run later
        (∀ arguments,
          ((f.launch p t' config (.ofList arguments) w').1 = .ok () ↔ Ready s' t' m.handle config) ∧
          (Ready s' t' m.handle config → f.launch p t' config (.ofList arguments) w' =
            (.ok (), w'.withDriver { s' with launches := s'.launches ++
              [⟨f.handle, name, config, arguments.length, none⟩] }))) ∧
        ∀ buffer : ArgumentBuffer,
          ((f.launchPacked p t' config buffer w').1 = .ok () ↔ Ready s' t' m.handle config) ∧
          (Ready s' t' m.handle config → f.launchPacked p t' config buffer w' =
            (.ok (), w'.withDriver { s' with launches := s'.launches ++
              [⟨f.handle, name, config, 0, some buffer.length⟩] })) := by
  intro s₀ s p
  have hi : Integrity s := integrity_run devices capability es
  refine ⟨?_, ?_, ?_, ?_⟩
  · intro t files request
    exact ⟨reply_launch_eq_ok_iff files, fun _ _ _ => after_launch files⟩
  · rintro front back rfl
    have grows := launches_prefix (s₀.run front) back
    rwa [← run_append] at grows
  · intro i r
    exact exists_launch_of_record s₀ es (Nat.zero_le i)
  intro w t m name f hw found later w' t' config hw' s'
  have hi' : Integrity w'.native.driver := hw' ▸ hi.run later
  have aged : Later s w'.native.driver := hw' ▸ later_run s later
  obtain ⟨-, found, -⟩ := (Module.fst_function_eq_ok_iff m name).1 found
  rw [hw] at found
  have books : w'.native.driver = s' := hw'
  clear_value s'
  subst books
  constructor
  · intro arguments
    let request : LaunchRequest := {
      function := f.handle
      config
      parameters := if (ParameterSlots.ofList arguments).count = 0 then none
        else some (ParameterSlots.ofList arguments).arguments
      options := none }
    have record : request.record name none = ⟨f.handle, name, config, arguments.length, none⟩ := by
      rcases arguments with _ | ⟨b, rest⟩
      · rfl
      · have given : (ParameterSlots.ofList (b :: rest)).count ≠ 0 := by
          rw [ParameterSlots.count_ofList]
          apply Nat.succ_ne_zero
        simp only [request, LaunchRequest.record, if_neg given, Option.map_some, Option.getD_some,
          ParameterSlots.length_arguments_ofList]
    have one_way : ¬ (request.parameters.isSome ∧ request.options.isSome) := fun h => nomatch h.2
    rw [← record]
    exact Platform.call_launch hi hi' aged found one_way rfl
  · intro buffer
    let request : LaunchRequest := {
      function := f.handle
      config
      parameters := none
      options := some buffer.options }
    have one_way : ¬ (request.parameters.isSome ∧ request.options.isSome) := fun h => nomatch h.1
    have announced : request.Announces (some buffer.length) :=
      ⟨_, rfl, OptionList.announces_ofBuffer buffer.bytes⟩
    exact Platform.call_launch hi hi' aged found one_way announced

end Call

/-! ### A kernel that is launched -/

/-- A run that loads a kernel into a new context. -/
def kernelRun : List Event := contextRun ++ [textLoad 0 (Ptx.kernelModule 0)]

theorem loadImage_kernelModule :
    ((fresh 1 (7, 0)).run contextRun).loadImage 0 (Utf8.encode (Ptx.kernelModule 0)) =
      (.ok 0x1200, (addModule ((fresh 1 (7, 0)).run contextRun) 0x1100 .empty ["k"]).2) := by
  have placed : place ((fresh 1 (7, 0)).run contextRun).nextAddress .empty
      (Ptx.symbols (Ptx.kernelModule 0)).globals =
        (some .empty, ((fresh 1 (7, 0)).run contextRun).nextAddress) := by
    rw [Ptx.symbols_kernelModule]
    rfl
  have loaded := (loadImage_eq_ok_iff (t := 0)).2
    ⟨0x1100, _, _, _, rfl, imageText?_kernelModule, Ptx.isModule_kernelModule 0, placed, rfl⟩
  rw [Ptx.symbols_kernelModule] at loaded
  exact loaded

theorem run_kernelRun : (fresh 1 (7, 0)).run kernelRun =
    (addModule ((fresh 1 (7, 0)).run contextRun) 0x1100 .empty ["k"]).2 :=
  (run_concat _ _ _).trans (congrArg Prod.snd loadImage_kernelModule)

/-- A kernel is looked up and launched twice, with two arguments and with a buffer of four octets. -/
theorem launches_recorded_twice :
    let p : Platform (Bench Unit) := Platform.inProcess .bare
    let s := (fresh 1 (7, 0)).run kernelRun
    let w : World (Bench Unit) := { native := { driver := s, vendor := () } }
    let m : Owned.Module := ⟨0x1200, some 0x1100⟩
    let f : Owned.Function := ⟨0x1300, "k"⟩
    let config : LaunchConfig := { grid := .single, block := .row 1024 }
    (m.function p 0 "k" w).1 = .ok f ∧
      f.launch p 0 config (.ofList [[1], [2, 3]]) w =
        (.ok (), w.withDriver { s with launches := [⟨0x1300, "k", config, 2, none⟩] }) ∧
      f.launchPacked p 0 config ⟨[1, 0, 2, 3]⟩ w =
        (.ok (), w.withDriver { s with launches := [⟨0x1300, "k", config, 0, some 4⟩] }) ∧
      ((fresh 1 (7, 0)).run kernelRun).launches <+: s.launches := by
  intro p s w m f config
  have books : s = _ := run_kernelRun
  have found : (m.function p 0 "k" w).1 = .ok f := by
    rw [Module.fst_function_eq_ok_iff]
    refine ⟨by decide, ?_, rfl⟩
    show s.function 0x1200 (Utf8.encode "k") = .ok 0x1300
    rw [books]
    exact (function_eq_ok_iff rfl (Table.get?_insert_self ..)).2 ⟨"k", rfl, rfl⟩
  have ready : Ready s 0 0x1200 config := by
    refine ⟨?_, by decide, by decide⟩
    rw [books]
    exact ⟨_, Table.get?_insert_self .., rfl⟩
  have empty : s.launches = [] := by
    rw [books]
    rfl
  obtain ⟨-, log, -, launched⟩ :=
    launches_recorded .bare 1 (7, 0) kernelRun (ν := Unit)
  obtain ⟨one, packed⟩ := launched w 0 m "k" f rfl found [] w 0 config rfl
  have one := (one [[1], [2, 3]]).2 ready
  have packed := (packed ⟨[1, 0, 2, 3]⟩).2 ready
  rw [run_nil, show (fresh 1 (7, 0)).run kernelRun = s from rfl, empty] at one packed
  exact ⟨found, one, packed, log kernelRun [] (List.append_nil _).symm⟩

end GpuDriver
