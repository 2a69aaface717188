import GpuDriver.Proofs.InProcess.Freshness
import GpuDriver.Proofs.InProcess.Launch

/-!
# How long modules live

A module that is loaded stays what it is. It goes when it is unloaded, or with its context, and in no
other way: after any run it is there exactly if its context is and no call of the run unloaded it
(`mem_modules_run_iff`).
-/

namespace GpuDriver.InProcess

open State

/-! ### The calls that succeed -/

/-- The calls of a run that succeed, of all threads and in order. -/
def State.succeeded (s : State) : List Event → List Driver.Call
  | [] => []
  | e :: es => (if (s.reply e).isOk then [e.call] else []) ++ (s.after e).succeeded es

variable {s s' : State} {t : ThreadId} {call : Driver.Call} {e : Event} {m : Handle}
  {loaded : Module}

theorem succeeded_append (s : State) (es es' : List Event) :
    s.succeeded (es ++ es') = s.succeeded es ++ (s.run es).succeeded es' := by
  induction es generalizing s with
  | nil => rfl
  | cons e es ih => rw [List.cons_append, succeeded, ih, succeeded, List.append_assoc, run_cons]

theorem succeeded_of_ok {value : e.call.Value} (ok : s.reply e = .ok value) (es : List Event) :
    s.succeeded (e :: es) = e.call :: (s.after e).succeeded es := by
  rw [succeeded, ok]
  rfl

theorem succeeded_of_failed {status : Status} (failed : s.reply e = .error status)
    (es : List Event) : s.succeeded (e :: es) = (s.after e).succeeded es := by
  rw [succeeded, failed]
  rfl

theorem mem_map_of_mem_succeeded {es : List Event} (h : call ∈ s.succeeded es) :
    call ∈ es.map (·.call) := by
  induction es generalizing s with
  | nil => cases h
  | cons e es ih =>
    rcases List.mem_append.1 h with h | h
    · split at h
      · exact List.mem_cons.2 (Or.inl (List.mem_singleton.1 h))
      · cases h
    · exact List.mem_cons_of_mem _ (ih h)

/-- A call that changes the books otherwise than by a load has succeeded, where no reference dangles. -/
theorem mem_succeeded_or_eq (hi : Integrity s) (other : e.call.loads = false) :
    e.call ∈ s.succeeded [e] ∨ s.after e = s := by
  cases answered : s.reply e with
  | error status => exact Or.inr (hi.after_eq_self answered other)
  | ok value =>
    rw [succeeded_of_ok answered]
    exact Or.inl List.mem_cons_self

/-! ### One call -/

/-- A module that is loaded stays, or it is unloaded, or its context is gone. -/
theorem Change.module (hi : Integrity s) (h : Change t s call s')
    (hm : s.modules.get? m = some loaded) :
    s'.modules.get? m = some loaded ∨
      m ∉ s'.modules.keys ∧ (call = .unloadModule m ∨ loaded.context ∉ s'.contexts.keys) := by
  have old : m ≠ s.lastHandle + handleStep :=
    hi.ne_next (k := .module) (Table.mem_keys.2 ⟨_, hm⟩)
  have dropped (c : Handle) : (s.dropContext c).modules.get? m = some loaded ∨
      m ∉ (s.dropContext c).modules.keys ∧ loaded.context ∉ (s.dropContext c).contexts.keys := by
    by_cases owner : loaded.context = c
    · refine Or.inr ⟨fun alive => ?_, fun alive => (Table.mem_keys_erase.1 alive).1 owner⟩
      obtain ⟨again, alive⟩ := Table.mem_keys.1 alive
      obtain ⟨alive, other⟩ := Table.get?_filter_eq_some_iff.1 alive
      cases hm.symm.trans alive
      simp [owner] at other
    · exact Or.inl (Table.get?_filter_eq_some_iff.2 ⟨hm, by simpa using owner⟩)
  cases h with
  | releaseLast | destroyTop | destroyOther => exact (dropped _).imp_right (And.imp_right Or.inr)
  | load => exact Or.inl ((Table.get?_insert_of_ne old _).trans hm)
  | @unload m' =>
    by_cases same : m = m'
    · exact Or.inr ⟨fun alive => (Table.mem_keys_erase.1 alive).1 same, Or.inl (same ▸ rfl)⟩
    · exact Or.inl (Table.get?_erase_eq_some_iff.2 ⟨same, hm⟩)
  | _ => exact Or.inl hm

/-- A module that is unloaded is gone. -/
theorem not_mem_modules_of_unloaded (unloaded : .unloadModule m ∈ s.succeeded [e]) :
    m ∉ (s.after e).modules.keys := by
  obtain ⟨t, files, c⟩ := e
  cases answered : s.reply ⟨t, files, c⟩ with
  | error status =>
    rw [succeeded_of_failed answered] at unloaded
    cases unloaded
  | ok value =>
    rw [succeeded_of_ok answered, succeeded, List.mem_singleton] at unloaded
    obtain rfl : _ = c := unloaded
    obtain ⟨s', answered, left⟩ := exists_of_reply answered
    obtain ⟨-, -, rfl⟩ := unloadModule_eq_ok_iff.1 answered
    have left : s.after ⟨t, files, .unloadModule m⟩ = _ := left
    rw [left]
    exact fun alive => (Table.mem_keys_erase.1 alive).1 rfl

/-- What an event makes of a module that is loaded. -/
theorem module_after (hi : Integrity s) (hm : s.modules.get? m = some loaded) (e : Event) :
    ((s.after e).modules.get? m = some loaded ∧ .unloadModule m ∉ s.succeeded [e]) ∨
      m ∉ (s.after e).modules.keys ∧
        (.unloadModule m ∈ s.succeeded [e] ∨ loaded.context ∉ (s.after e).contexts.keys) := by
  obtain kept | ⟨gone, called | orphaned⟩ := (change_after s e).module hi hm
  · refine Or.inl ⟨kept, fun unloaded => not_mem_modules_of_unloaded unloaded ?_⟩
    exact Table.mem_keys.2 ⟨_, kept⟩
  · obtain succeeded | same := mem_succeeded_or_eq hi (e := e) (by rw [called]; rfl)
    · exact Or.inr ⟨gone, Or.inl (called ▸ succeeded)⟩
    · rw [same] at gone
      exact absurd (Table.mem_keys.2 ⟨_, hm⟩) gone
  · exact Or.inr ⟨gone, Or.inr orphaned⟩

/-! ### Whole runs -/

/-- **How long a module lives.** Whatever any threads do, a module that is loaded is still there exactly
if its context is alive and it has not been unloaded. -/
theorem mem_modules_run_iff (hi : Integrity s) (hm : s.modules.get? m = some loaded)
    (es : List Event) : m ∈ (s.run es).modules.keys ↔
      loaded.context ∈ (s.run es).contexts.keys ∧ .unloadModule m ∉ s.succeeded es := by
  induction es generalizing s with
  | nil => exact ⟨fun _ => ⟨hi.owner_alive hm, List.not_mem_nil⟩, fun _ => Table.mem_keys.2 ⟨_, hm⟩⟩
  | cons e es ih =>
    have up := (change_after s e).lastHandle_le
    rw [run_cons, show e :: es = [e] ++ es from rfl, succeeded_append, List.mem_append, not_or]
    obtain ⟨kept, still⟩ | ⟨gone, how⟩ := module_after hi hm e
    · rw [ih (hi.change (change_after s e)) kept]
      exact ⟨fun h => ⟨h.1, still, h.2⟩, fun h => ⟨h.1, h.2.2⟩⟩
    · -- what is gone does not come back, neither the module nor its context
      have old : m ≤ s.lastHandle := (hi.key_bounds (k := .module) (Table.mem_keys.2 ⟨_, hm⟩)).2
      have owner : loaded.context ≤ s.lastHandle :=
        (hi.key_bounds (k := .context) (hi.owner_alive hm)).2
      constructor
      · intro alive
        exact absurd (mem_keysOf_of_run (k := .module) (Nat.le_trans old up) alive) gone
      · rintro ⟨alive, still, -⟩
        rcases how with unloaded | orphaned
        · exact absurd unloaded still
        · exact absurd (mem_keysOf_of_run (k := .context) (Nat.le_trans owner up) alive) orphaned

/-- As long as a module is there, it is what it was. -/
theorem get?_modules_run (hi : Integrity s) (hm : s.modules.get? m = some loaded)
    {es : List Event} (alive : m ∈ (s.run es).modules.keys) :
    (s.run es).modules.get? m = some loaded := by
  obtain ⟨found, alive⟩ := Table.mem_keys.1 alive
  have old : m ≤ s.lastHandle := (hi.key_bounds (k := .module) (Table.mem_keys.2 ⟨_, hm⟩)).2
  have same := ((later_run s es).modules old alive).symm.trans hm
  exact alive.trans same

end GpuDriver.InProcess
