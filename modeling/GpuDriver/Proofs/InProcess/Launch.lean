import Mathlib.Data.List.Induction
import GpuDriver.Proofs.InProcess.Failure
import GpuDriver.Proofs.InProcess.Integrity
import GpuDriver.Proofs.Launch.OptionList

/-!
# Launches and their log

A launch is accepted exactly if it meets what `Launchable` lists, and all that it changes is one record
at the end of the log (`launch_eq_ok_iff_launchable`). So the log of a run only grows, and each record in
it tells of a launch of the run that met all that when it was made (`exists_launch_of_record`).
-/

namespace GpuDriver

/-- The record that an accepted launch leaves. -/
def LaunchRequest.record (request : LaunchRequest) (name : String) (buffer : Option Nat) :
    InProcess.LaunchRecord where
  function := request.function
  name
  config := request.config
  parameterCount := (request.parameters.map List.length).getD 0
  bufferBytes := buffer

/-- The arguments are given in a buffer of that size, by a well-formed list, or in no buffer. -/
def LaunchRequest.Announces (request : LaunchRequest) (buffer : Option Nat) : Prop :=
  match request.options with
  | none => buffer = none
  | some options => ∃ bytes, buffer = some bytes ∧ OptionList.Announces OptionWord.pointee options bytes

namespace InProcess

open State

/-! ### What a launch requires -/

/-- The launch is in order: the kernel `f` belongs to the module `loaded`, whose context is alive and
the thread's current one, the extents are allowed and the arguments are given in one way. -/
structure Launchable (s : State) (t : ThreadId) (request : LaunchRequest) (f : Function)
    (loaded : Module) (buffer : Option Nat) : Prop where
  started : s.initialized = true
  kernel : s.functions.get? request.function = some f
  module : s.modules.get? f.module = some loaded
  current : s.top t = some loaded.context
  alive : loaded.context ∈ s.contexts.keys
  grid : 1 ≤ request.config.grid.volume
  block : 1 ≤ request.config.block.volume ∧ request.config.block.volume ≤ 1024
  one_way : ¬ (request.parameters.isSome ∧ request.options.isSome)
  announced : request.Announces buffer

section Step

variable {s s' : State} {t : ThreadId} {request : LaunchRequest}

theorem bufferBytes_eq_ok_iff {buffer : Option Nat} :
    bufferBytes request = .ok buffer ↔ request.Announces buffer := by
  unfold bufferBytes LaunchRequest.Announces
  cases request.options with
  | none => exact ⟨fun h => (Except.ok.inj h).symm, fun h => congrArg Except.ok h.symm⟩
  | some options =>
    dsimp only
    constructor
    · intro h
      cases hs : OptionList.bufferSize OptionWord.pointee options with
      | error e =>
        rw [hs] at h
        cases h
      | ok bytes =>
        rw [hs] at h
        exact ⟨bytes, (Except.ok.inj h).symm, OptionList.bufferSize_eq_ok_iff.1 hs⟩
    · rintro ⟨bytes, rfl, announces⟩
      rw [OptionList.bufferSize_eq_ok_iff.2 announces]
      rfl

/-- **A launch is accepted exactly if it is in order**, and then leaves one record at the end of the log
and all else as it was. -/
theorem launch_eq_ok_iff_launchable {u : Unit} :
    s.launch t request = (.ok u, s') ↔ ∃ f loaded buffer, Launchable s t request f loaded buffer ∧
      s' = { s with launches := s.launches ++ [request.record f.name buffer] } := by
  rw [launch_eq_ok_iff]
  constructor
  · rintro ⟨c, f, buffer, current, kernel, owner, grid, block, small, one_way, announced, rfl⟩
    obtain ⟨started, top, alive⟩ := current_eq_ok_iff.1 current
    obtain ⟨loaded, module, rfl⟩ := Option.map_eq_some_iff.1 owner
    refine ⟨f, loaded, buffer, ?_, rfl⟩
    exact ⟨started, kernel, module, top, alive, Nat.pos_of_ne_zero grid,
      ⟨Nat.pos_of_ne_zero block, small⟩, one_way, bufferBytes_eq_ok_iff.1 announced⟩
  · rintro ⟨f, loaded, buffer, h, rfl⟩
    refine ⟨loaded.context, f, buffer, ?_, h.kernel, ?_, ?_, ?_, h.block.2, h.one_way,
      bufferBytes_eq_ok_iff.2 h.announced, rfl⟩
    · exact current_eq_ok_iff.2 ⟨h.started, h.current, h.alive⟩
    · rw [h.module]
      rfl
    · exact Nat.ne_of_gt h.grid
    · exact Nat.ne_of_gt h.block.1

theorem reply_launch_eq_ok_iff (files : FileTree) :
    s.reply ⟨t, files, .launch request⟩ = .ok () ↔
      ∃ f loaded buffer, Launchable s t request f loaded buffer := by
  constructor
  · intro ok
    obtain ⟨s', answered, -⟩ := exists_of_reply (show (s.launch t request).1 = _ from ok)
    obtain ⟨f, loaded, buffer, h, -⟩ := launch_eq_ok_iff_launchable.1 answered
    exact ⟨f, loaded, buffer, h⟩
  · rintro ⟨f, loaded, buffer, h⟩
    have answered := (launch_eq_ok_iff_launchable (u := ())).2 ⟨f, loaded, buffer, h, rfl⟩
    exact congrArg Prod.fst answered

theorem after_launch {f : Function} {loaded : Module} {buffer : Option Nat} (files : FileTree)
    (h : Launchable s t request f loaded buffer) : s.after ⟨t, files, .launch request⟩ =
      { s with launches := s.launches ++ [request.record f.name buffer] } := by
  have answered := (launch_eq_ok_iff_launchable (u := ())).2 ⟨f, loaded, buffer, h, rfl⟩
  exact congrArg Prod.snd answered

end Step

/-! ### What old handles name -/

/-- `s'` is a later state of the books: under the handles that were given out in `s`, it has the modules
and kernels that `s` had, or nothing. -/
structure Later (s s' : State) : Prop where
  started (h : s.initialized = true) : s'.initialized = true
  handles : s.lastHandle ≤ s'.lastHandle
  modules {m : Handle} {loaded : Module} (old : m ≤ s.lastHandle)
    (h : s'.modules.get? m = some loaded) : s.modules.get? m = some loaded
  functions {f : Handle} {entry : Function} (old : f ≤ s.lastHandle)
    (h : s'.functions.get? f = some entry) : s.functions.get? f = some entry

namespace Later

theorem refl (s : State) : Later s s := ⟨id, Nat.le_refl _, fun _ => id, fun _ => id⟩

theorem trans {s s' s'' : State} (h : Later s s') (h' : Later s' s'') : Later s s'' where
  started up := h'.started (h.started up)
  handles := Nat.le_trans h.handles h'.handles
  modules old found := h.modules old (h'.modules (Nat.le_trans old h.handles) found)
  functions old found := h.functions old (h'.functions (Nat.le_trans old h.handles) found)

theorem dropContext (s : State) (c : Handle) : Later s (s.dropContext c) where
  started := id
  handles := Nat.le_refl _
  modules _ h := (Table.get?_filter_eq_some_iff.1 h).1
  functions _ h := (Table.get?_filter_eq_some_iff.1 h).1

/-- What is loaded has new handles. -/
theorem addModule (s : State) (context : Handle) (globals : Table String Allocation)
    (entries : List String) : Later s (addModule s context globals entries).2 where
  started := id
  handles := by
    show s.lastHandle ≤ s.lastHandle + handleStep + handleStep * entries.length
    lia
  modules {m _} old h := by
    have pos := handleStep_pos
    have other : m ≠ s.lastHandle + handleStep := by lia
    exact (Table.get?_insert_of_ne other _).symm.trans h
  functions {f _} old h := by
    have other : ∀ k ∈ numbered (s.lastHandle + handleStep) entries, k.1 ≠ f := by
      intro k hk
      have above := (mem_numbered hk).1
      have pos := handleStep_pos
      lia
    exact (Table.get?_foldl_insert_of_forall_ne other _).symm.trans h

end Later

theorem Change.later {t : ThreadId} {s s' : State} {c : Driver.Call} (h : Change t s c s') :
    Later s s' := by
  cases h with
  | start => exact ⟨fun _ => rfl, Nat.le_refl _, fun _ => id, fun _ => id⟩
  | retainFirst | create | beginLink =>
    exact ⟨id, Nat.le_add_right _ _, fun _ => id, fun _ => id⟩
  | releaseLast | destroyTop | destroyOther => exact { Later.dropContext s _ with }
  | load => exact { Later.addModule _ _ _ _ with }
  | unload =>
    refine ⟨id, Nat.le_refl _, fun _ h => ?_, fun _ h => ?_⟩
    · exact (Table.get?_erase_eq_some_iff.1 h).2
    · exact (Table.get?_filter_eq_some_iff.1 h).1
  | _ => exact ⟨id, Nat.le_refl _, fun _ => id, fun _ => id⟩

/-- Books after a run are later than before it. -/
theorem later_run (s : State) (es : List Event) : Later s (s.run es) := by
  induction es generalizing s with
  | nil => exact .refl s
  | cons e es ih => exact (change_after s e).later.trans (ih _)

/-! ### The log -/

/-- Only a launch touches the log. -/
theorem Change.launches {t : ThreadId} {s s' : State} {c : Driver.Call} (h : Change t s c s') :
    s'.launches = s.launches ∨ ∃ request, c = .launch request := by
  cases h with
  | launch => exact Or.inr ⟨_, rfl⟩
  | _ => exact Or.inl rfl

/-- An event leaves the log as it was, or it is a launch in order and adds its record. -/
theorem launches_after (s : State) (e : Event) : (s.after e).launches = s.launches ∨
    ∃ request f loaded buffer, e.call = .launch request ∧
      Launchable s e.thread request f loaded buffer ∧
      (s.after e).launches = s.launches ++ [request.record f.name buffer] := by
  obtain same | ⟨request, called⟩ := (change_after s e).launches
  · exact Or.inl same
  obtain ⟨t, files, c⟩ := e
  subst called
  cases answered : s.reply ⟨t, files, .launch request⟩ with
  | error status =>
    rw [after_eq_self_of_failed answered rfl rfl]
    exact Or.inl rfl
  | ok u =>
    obtain ⟨f, loaded, buffer, h⟩ := (reply_launch_eq_ok_iff _).1 answered
    refine Or.inr ⟨request, f, loaded, buffer, rfl, h, ?_⟩
    rw [after_launch files h]

/-- The log of a run begins with the log before it. -/
theorem launches_prefix (s : State) (es : List Event) : s.launches <+: (s.run es).launches := by
  induction es generalizing s with
  | nil => apply List.prefix_refl
  | cons e es ih =>
    refine List.IsPrefix.trans ?_ (ih (s.after e))
    obtain same | ⟨request, f, loaded, buffer, -, -, added⟩ := launches_after s e
    · exact same ▸ List.prefix_refl _
    · rw [added]
      apply List.prefix_append

/-- The record with the index `i` is what an event of the run left, a launch that was in order when it
was made. -/
def Recorded (s : State) (es : List Event) (i : Nat) (r : LaunchRecord) : Prop :=
  ∃ front e back request f loaded buffer, es = front ++ e :: back ∧
    (s.run front).launches.length = i ∧ e.call = .launch request ∧
    Launchable (s.run front) e.thread request f loaded buffer ∧ r = request.record f.name buffer

theorem Recorded.concat {s : State} {es : List Event} {i : Nat} {r : LaunchRecord}
    (h : Recorded s es i r) (e : Event) : Recorded s (es ++ [e]) i r := by
  obtain ⟨front, e', back, request, f, loaded, buffer, rfl, rest⟩ := h
  refine ⟨front, e', back ++ [e], request, f, loaded, buffer, ?_, rest⟩
  rw [List.append_assoc, List.cons_append]

/-- **Each record was launched in the run**, or was there before. -/
theorem exists_launch_of_record (s : State) (es : List Event) {i : Nat} {r : LaunchRecord}
    (new : s.launches.length ≤ i) (h : (s.run es).launches[i]? = some r) : Recorded s es i r := by
  induction es using List.reverseRecOn with
  | nil =>
    rw [run_nil, List.getElem?_eq_none new] at h
    cases h
  | append_singleton es e ih =>
    rw [run_concat] at h
    obtain same | ⟨request, f, loaded, buffer, called, inOrder, added⟩ :=
      launches_after (s.run es) e
    · rw [same] at h
      exact (ih h).concat e
    · rw [added] at h
      by_cases old : i < (s.run es).launches.length
      · rw [List.getElem?_append_left old] at h
        exact (ih h).concat e
      · rw [List.getElem?_append_right (Nat.le_of_not_lt old), List.getElem?_singleton] at h
        split at h
        · rename_i last
          refine ⟨es, e, [], request, f, loaded, buffer, rfl, ?_, called, inOrder, ?_⟩
          · exact Nat.le_antisymm (Nat.le_of_not_lt old) (Nat.le_of_sub_eq_zero last)
          · exact (Option.some.inj h).symm
        · cases h

end InProcess

end GpuDriver
