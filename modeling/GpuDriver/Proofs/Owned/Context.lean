import GpuDriver.Owned.Context
import GpuDriver.Proofs.InProcess.Nesting
import GpuDriver.Workbench

/-!
# Destroying a context

A context that is destroyed on a thread, directly or through the object that owns it, is dead from then
on. It is not the thread's current context any more, except if it stood on the thread's stack twice in a
row on top: one place is taken off, and the other shows the dead handle (`currentContext_destroy_iff`).
Whatever needs a context then fails.
-/

namespace GpuDriver

open InProcess InProcess.State

/-! ### Calls on the in-process platform -/

section Platform

variable {ν : Type} (m : Machine ν) {t : ThreadId} {w : World (Bench ν)}

/-- The world with other books of the in-process driver. -/
def World.withDriver (w : World (Bench ν)) (s : InProcess.State) : World (Bench ν) :=
  { w with native := { w.native with driver := s } }

/-- A successful call of the platform is a successful event of the driver. -/
theorem Machine.call_inProcess {c : Driver.Call} {value : c.Value}
    (h : w.native.driver.reply ⟨t, w.files, c⟩ = .ok value) :
    m.inProcess.call t c w =
      (.ok value, w.withDriver (w.native.driver.after ⟨t, w.files, c⟩)) := by
  have hstep : InProcess.State.step t w.files c w.native.driver =
      (.ok value, w.native.driver.after ⟨t, w.files, c⟩) := Prod.ext h rfl
  simp only [Platform.call, Platform.ask, Machine.inProcess, Machine.platform,
    Bench.inProcessDriver, hstep]
  rfl

/-- An owned context is destroyed on request and when it is dropped, if its handle can be destroyed. -/
theorem Owned.Context.destroy_inProcess (x : Owned.Context) (hx : x.handle ≠ 0)
    (h : w.native.driver.reply ⟨t, w.files, .destroyContext x.handle⟩ = .ok ()) :
    x.destroy m.inProcess t w =
        (.ok (), w.withDriver (w.native.driver.after ⟨t, w.files, .destroyContext x.handle⟩)) ∧
      x.drop m.inProcess t w =
        w.withDriver (w.native.driver.after ⟨t, w.files, .destroyContext x.handle⟩) := by
  have hd : destroyRaw m.inProcess t x.handle w =
      (.ok (), w.withDriver (w.native.driver.after ⟨t, w.files, .destroyContext x.handle⟩)) :=
    m.call_inProcess h
  exact ⟨(congrFun (x.destroy_eq m.inProcess t) w).trans hd,
    by simp only [Owned.Context.drop, if_neg hx, hd]⟩

end Platform

namespace InProcess

variable {s : State} {t : ThreadId} {c : Handle}

/-- A handle on top of the stack that names no live context cannot be worked with. -/
theorem current_eq_contextIsDestroyed (up : s.initialized = true) (top : s.top t = some c)
    (dead : c ∉ s.contexts.keys) : s.current t = .error .contextIsDestroyed := by
  have hdead : ¬ s.contexts.contains c = true := fun h => dead (Table.mem_keys_iff.2 h)
  simp [current, requireInit, up, top, hdead, bind, Except.bind]

/-- What is left of a context after it was destroyed. -/
theorem mem_keys_after_destroy {files : FileTree}
    (ok : s.reply ⟨t, files, .destroyContext c⟩ = .ok ()) :
    s.initialized = true ∧ c ∈ s.contexts.keys ∧
      (s.after ⟨t, files, .destroyContext c⟩).initialized = true ∧
      c ∉ (s.after ⟨t, files, .destroyContext c⟩).contexts.keys := by
  obtain ⟨s', hop, hafter⟩ := exists_of_reply ok
  have hafter : s.after ⟨t, files, .destroyContext c⟩ = s' := hafter
  rw [hafter]
  obtain ⟨up, ⟨d, alive⟩, rfl⟩ := destroyContext_eq_ok_iff.1 hop
  refine ⟨up, Table.mem_keys.2 ⟨_, alive⟩, ?_⟩
  have gone : c ∉ (s.contexts.erase c).keys := fun h => (Table.mem_keys_erase.1 h).1 rfl
  split <;> exact ⟨up, gone⟩

theorem stackOf_after_destroy {files : FileTree}
    (ok : s.reply ⟨t, files, .destroyContext c⟩ = .ok ()) :
    (s.after ⟨t, files, .destroyContext c⟩).stackOf t =
      if (s.stackOf t).head? = some c then (s.stackOf t).tail else s.stackOf t := by
  rw [stackOf_after, success?, if_pos rfl, ok]
  rfl

/-- **When a destroyed context is still current.** After any run, if a thread destroys a context, then
the context is dead. It is the thread's current context afterwards exactly if it was in the two topmost
places of the thread's stack; and then nothing that needs a context succeeds on the thread. The same holds
if an object that owns the context destroys it, on request or when it is dropped. -/
theorem currentContext_destroy_iff (devices : Int) (capability : Int × Int) (es : List Event)
    (t : ThreadId) (files : FileTree) (c : Handle)
    (ok : ((fresh devices capability).run es).reply ⟨t, files, .destroyContext c⟩ = .ok ()) :
    let s := (fresh devices capability).run es
    let s' := s.after ⟨t, files, .destroyContext c⟩
    c ∉ s'.contexts.keys ∧
      (s'.currentContext t = .ok c ↔ ∃ below, s.stackOf t = c :: c :: below) ∧
      (s'.currentContext t = .ok c → s'.current t = .error .contextIsDestroyed) ∧
      ∀ {ν : Type} (m : Machine ν) (w : World (Bench ν)) (x : Owned.Context),
        w.native.driver = s → x.handle = c →
          x.destroy m.inProcess t w = (.ok (), w.withDriver s') ∧
            x.drop m.inProcess t w = w.withDriver s' := by
  intro s s'
  obtain ⟨-, alive, up', dead⟩ := mem_keys_after_destroy ok
  have nonzero : c ≠ 0 := by
    have hi : Integrity s := (integrity_fresh devices capability).run es
    exact Nat.pos_iff_ne_zero.1 (hi.key_bounds (k := .context) alive).1
  have shown : s'.currentContext t = .ok c ↔ (s'.stackOf t).head? = some c := by
    rw [currentContext_eq_ok_iff, State.top]
    cases (s'.stackOf t).head? with
    | none => simpa using fun _ => nonzero.symm
    | some c' => simpa using fun _ => up'
  have hstack : s'.stackOf t = _ := stackOf_after_destroy ok
  refine ⟨dead, ?_, fun h => current_eq_contextIsDestroyed up' (shown.1 h) dead, ?_⟩
  · rw [shown, hstack]
    rcases s.stackOf t with _ | ⟨a, _ | ⟨b, below⟩⟩
    · simp
    · by_cases ha : a = c <;> simp [ha]
    · by_cases ha : a = c <;> simp [ha]
  · rintro ν m w x hw rfl
    have ok' : w.native.driver.reply ⟨t, w.files, .destroyContext x.handle⟩ = .ok () := by
      rw [hw]
      exact ok
    have destroyed := Owned.Context.destroy_inProcess m x nonzero ok'
    rw [hw] at destroyed
    exact destroyed

/-- A context that was created inside another is not current after its destruction. -/
theorem currentContext_destroy_iff_inner :
    let s := (fresh 1 (7, 0)).run [⟨0, {}, .init 0⟩, ⟨0, {}, .createContext 0 ⟨0⟩⟩,
      ⟨0, {}, .createContext 0 ⟨0⟩⟩]
    s.reply ⟨0, {}, .destroyContext 0x1200⟩ = .ok () ∧
      (s.after ⟨0, {}, .destroyContext 0x1200⟩).currentContext 0 ≠ .ok 0x1200 := by
  refine ⟨rfl, fun h => ?_⟩
  obtain ⟨below, hs⟩ := (currentContext_destroy_iff 1 (7, 0) [⟨0, {}, .init 0⟩,
    ⟨0, {}, .createContext 0 ⟨0⟩⟩, ⟨0, {}, .createContext 0 ⟨0⟩⟩] 0 {} 0x1200 rfl).2.1.1 h
  have hs : [0x1200, 0x1100] = 0x1200 :: 0x1200 :: below := hs
  simp at hs

/-- A context that was made current above itself is still current after its destruction. -/
theorem exists_current_after_destroy :
    ¬ ∀ (devices : Int) (capability : Int × Int) (es : List Event) (t : ThreadId)
      (files : FileTree) (c : Handle),
      ((fresh devices capability).run es).reply ⟨t, files, .destroyContext c⟩ = .ok () →
        (((fresh devices capability).run es).after ⟨t, files, .destroyContext c⟩).currentContext t ≠
          .ok c := by
  intro h
  exact h 1 (7, 0) [⟨0, {}, .init 0⟩, ⟨0, {}, .createContext 0 ⟨0⟩⟩,
    ⟨0, {}, .createContext 0 ⟨0⟩⟩, ⟨0, {}, .setCurrentContext 0x1100⟩] 0 {} 0x1100 rfl rfl

end InProcess

end GpuDriver
