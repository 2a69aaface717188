import GpuDriver.Proofs.Session.Accounts
import GpuDriver.Proofs.World

/-!
# Every native object is released once

The library gives back exactly what it was given, on any driver and any runtime compiler, whatever they
answer, also to the calls that give something back. A platform is made to keep a record of all its calls
(`Platform.recorded`). What the record says was obtained is what it says was released, together with what
the objects stand for that there still are (`Session.released_once`).
-/

namespace GpuDriver

open Session (Object)

/-- Something native that has to be given back. A retain goes by its device. -/
inductive Resource
  /-- A context that was created. -/
  | context (c : Handle)
  /-- A retain of a primary context. -/
  | primary (d : Device)
  /-- A link session. -/
  | link (l : Handle)
  /-- A module. -/
  | module (m : Handle)
  /-- A program of the runtime compiler. -/
  | program (q : Handle)
deriving DecidableEq, Repr

/-- It has a null handle. -/
def Resource.isNull : Resource → Bool
  | .context c => c = 0
  | .link l => l = 0
  | .module m => m = 0
  | .primary _ | .program _ => false

/-- What an owned object stands for. -/
def Session.Object.resource : Object → Resource
  | .context c => .context c.handle
  | .primary c => .primary c.device
  | .link l => .link l.handle
  | .module m => .module m.handle
  | .program q => .program q.handle

@[simp] theorem Session.Object.isNull_resource (o : Object) : o.resource.isNull = o.isNull := by
  cases o <;> rfl

/-- What a call gives back. -/
def Driver.Call.released? : Driver.Call → Option Resource
  | .destroyContext c => some (.context c)
  | .releasePrimary d => some (.primary d)
  | .destroyLink l => some (.link l)
  | .unloadModule m => some (.module m)
  | _ => none

/-- What a call of the runtime compiler gives back. -/
def Nvrtc.Call.released? : Nvrtc.Call → Option Resource
  | .destroy q => some (.program q)
  | _ => none

/-- A call with its answer. -/
inductive Exchange
  /-- A call of the driver. -/
  | driver (t : ThreadId) (c : Driver.Call) (reply : c.Reply)
  /-- A call of the runtime compiler. -/
  | nvrtc (c : Nvrtc.Call) (reply : c.Reply)

namespace Exchange

/-- What a call obtained, if it succeeded. -/
def obtained? : Exchange → Option Resource
  | driver _ (.createContext _ _) reply => reply.toOption.map .context
  | driver _ (.retainPrimary d) reply => reply.toOption.map fun _ => .primary d
  | driver _ .createLink reply => reply.toOption.map .link
  | driver _ (.loadModule _) reply => reply.toOption.map .module
  | driver _ (.loadModuleData _) reply => reply.toOption.map .module
  | nvrtc (.create _ _) reply => reply.toOption.map .program
  | _ => none

/-- What a call gave back, whatever it was answered with. -/
def released? : Exchange → Option Resource
  | driver _ c _ => c.released?
  | nvrtc c _ => c.released?

/-- What was given by the calls of a record, in order. -/
def obtained (record : List Exchange) : List Resource := record.filterMap obtained?

/-- What was given back by the calls of a record, in order. -/
def released (record : List Exchange) : List Resource := record.filterMap released?

theorem obtained?_of_idle {t : ThreadId} {c : Driver.Call} (hc : (c.asks || c.directs) = true)
    (reply : c.Reply) : (driver t c reply).obtained? = none := by
  cases c <;> first | rfl | cases hc

theorem released?_of_idle {t : ThreadId} {c : Driver.Call} (hc : (c.asks || c.directs) = true)
    (reply : c.Reply) : (driver t c reply).released? = none := by
  cases c <;> first | rfl | cases hc

theorem obtained?_of_asks {c : Nvrtc.Call} (hc : c.asks = true)
    (reply : c.Reply) : (nvrtc c reply).obtained? = none := by
  cases c <;> first | rfl | cases hc

theorem released?_of_asks {c : Nvrtc.Call} (hc : c.asks = true)
    (reply : c.Reply) : (nvrtc c reply).released? = none := by
  cases c <;> first | rfl | cases hc

theorem obtained_concat (record : List Exchange) (e : Exchange) :
    obtained (record ++ [e]) = obtained record ++ e.obtained?.toList := by
  rw [obtained, List.filterMap_append]
  rcases h : e.obtained? with _ | x <;> simp [obtained, h]

theorem released_concat (record : List Exchange) (e : Exchange) :
    released (record ++ [e]) = released record ++ e.released?.toList := by
  rw [released, List.filterMap_append]
  rcases h : e.released? with _ | x <;> simp [released, h]

end Exchange

/-- The platform, keeping a record of the calls that are made, the oldest first. -/
def Platform.recorded {σ : Type} (p : Platform σ) : Platform (σ × List Exchange) where
  driver t files c s :=
    match p.driver t files c s.1 with
    | (reply, native) => (reply, native, s.2 ++ [.driver t c reply])
  nvrtc c s :=
    match p.nvrtc c s.1 with
    | (reply, native) => (reply, native, s.2 ++ [.nvrtc c reply])
  toSystem := p.toSystem

/-- The world before the first call. -/
def World.recorded {σ : Type} (w : World σ) : World (σ × List Exchange) :=
  { w with native := (w.native, []) }

open Exchange

/-! ### The balance -/

/-- How many of the objects stand for a resource. -/
def owned (x : Resource) (objects : Multiset Object) : Nat :=
  objects.countP fun o => o.resource = x

@[simp] theorem owned_zero (x : Resource) : owned x 0 = 0 := rfl

@[simp] theorem owned_cons (x : Resource) (o : Object) (objects : Multiset Object) :
    owned x (o ::ₘ objects) = owned x objects + if o.resource = x then 1 else 0 :=
  Multiset.countP_cons _ _ _

@[simp] theorem owned_singleton (x : Resource) (o : Object) :
    owned x {o} = if o.resource = x then 1 else 0 :=
  (owned_cons x o 0).trans (Nat.zero_add _)

theorem owned_add (x : Resource) (o : Object) (objects : Multiset Object) :
    owned x ({o} + objects) = owned x objects + if o.resource = x then 1 else 0 := by
  rw [Multiset.singleton_add, owned_cons]

/-- A record balances with the objects that there are: what was obtained has been released or is owned.
Only null handles may have been let go of. -/
structure Settled (objects : Multiset Object) (record : List Exchange) : Prop where
  /-- Nothing is released or owned that was not obtained. -/
  covered (x : Resource) :
    (released record).count x + owned x objects ≤ (obtained record).count x
  /-- Nothing is lost. -/
  balanced (x : Resource) (hx : x.isNull = false) :
    (obtained record).count x = (released record).count x + owned x objects
  /-- At no time was more released than obtained. -/
  backed (x : Resource) (earlier : List Exchange) (h : earlier <+: record) :
    (released earlier).count x ≤ (obtained earlier).count x

namespace Settled

variable {objects : Multiset Object} {record : List Exchange} {e : Exchange} {o : Object}

theorem nil : Settled 0 [] where
  covered x := by simp [obtained, released]
  balanced x _ := by simp [obtained, released]
  backed x earlier h := by simp [List.prefix_nil.1 h, obtained, released]

/-- What one more call does to the balance. -/
theorem concat {objects' : Multiset Object} (h : Settled objects record)
    (moved : ∀ x, owned x objects' + e.released?.toList.count x =
      owned x objects + e.obtained?.toList.count x) :
    Settled objects' (record ++ [e]) where
  covered x := by
    rw [obtained_concat, released_concat, List.count_append, List.count_append]
    have := h.covered x
    have := moved x
    lia
  balanced x hx := by
    rw [obtained_concat, released_concat, List.count_append, List.count_append]
    have := h.balanced x hx
    have := moved x
    lia
  backed x earlier hp := by
    obtain rfl | hp := List.prefix_concat_iff.1 hp
    · rw [obtained_concat, released_concat, List.count_append, List.count_append]
      have := h.covered x
      have := moved x
      lia
    · exact h.backed x earlier hp

theorem idle (h : Settled objects record) (ho : e.obtained? = none) (hr : e.released? = none) :
    Settled objects (record ++ [e]) :=
  h.concat fun x => by rw [ho, hr]

/-- A call that is answered with a handle is given what its object stands for. -/
theorem obtain {α : Type} {f : α → Object} {answer : Option α} (h : Settled objects record)
    (ho : e.obtained? = answer.map fun a => (f a).resource) (hr : e.released? = none) :
    Settled (made f answer + objects) (record ++ [e]) := by
  cases answer with
  | none => exact (Multiset.zero_add objects).symm ▸ h.idle ho hr
  | some a =>
    refine h.concat fun x => ?_
    rw [ho, hr, made_some, owned_add]
    simp only [Option.map_some, Option.toList_some, Option.toList_none, List.count_singleton,
      List.count_nil, beq_iff_eq]
    lia

theorem release (h : Settled ({o} + objects) record) (ho : e.obtained? = none)
    (hr : e.released? = some o.resource) : Settled objects (record ++ [e]) :=
  h.concat fun x => by
    rw [ho, hr, owned_add]
    simp only [Option.toList_some, Option.toList_none, List.count_singleton, List.count_nil,
      beq_iff_eq]
    lia

theorem letGo (h : Settled ({o} + objects) record) (null : o.isNull = true) :
    Settled objects record where
  covered x := by
    have := h.covered x
    rw [owned_add] at this
    lia
  balanced x hx := by
    have hne : o.resource ≠ x := by
      rintro rfl
      simp [null] at hx
    have := h.balanced x hx
    rwa [owned_add, if_neg hne] at this
  backed := h.backed

/-- An object can take the place of another that stands for the same. -/
theorem replace {o' : Object} (h : Settled ({o} + objects) record)
    (same : o'.resource = o.resource) : Settled ({o'} + objects) record where
  covered x := by simpa only [owned_add, same] using h.covered x
  balanced x hx := by simpa only [owned_add, same] using h.balanced x hx
  backed := h.backed

end Settled

/-! ### Platforms that keep a record -/

section Platforms

variable {σ : Type} (p : Platform σ) (t : ThreadId)

/-- **The record of any platform balances.** -/
theorem settled_accounts :
    Accounts p.recorded t fun objects (s : σ × List Exchange) => Settled objects s.2 := by
  have asks {files : FileTree} {c : Driver.Call} {objects : Multiset Object}
      {s : σ × List Exchange} (hc : (c.asks || c.directs) = true) (held : Settled objects s.2) :
      Settled objects (p.recorded.driver t files c s).2.2 :=
    held.idle (obtained?_of_idle hc _) (released?_of_idle hc _)
  have asked {files : FileTree} {c : Handle} {objects : Multiset Object}
      {s s' : σ × List Exchange} (held : Settled objects s.2)
      (shown : p.recorded.driver t files .currentContext s = (.ok c, s')) :
      Settled objects s'.2 := by
    have kept : Settled objects (p.recorded.driver t files .currentContext s).2.2 := asks rfl held
    rwa [shown] at kept
  exact {
    asks := fun hc held => asks (by simp [hc]) held
    directs := fun hc held => asks (by simp [hc]) held
    createContext := fun held => held.obtain rfl rfl
    destroyContext := fun held => held.release rfl rfl
    retain := fun held => held.obtain rfl rfl
    release := fun held => held.release rfl rfl
    beginLink := fun held => held.obtain rfl rfl
    addInput := fun held => held.idle rfl rfl
    recount := fun held => held.replace rfl
    endLink := fun held => held.release rfl rfl
    loadFile := fun held shown => (asked held shown).obtain rfl rfl
    loadData := fun held shown => (asked held shown).obtain rfl rfl
    unload := fun held => held.release rfl rfl
    letGo := fun null held => held.letGo null
    asksNvrtc := fun hc held =>
      held.idle (obtained?_of_asks hc _) (released?_of_asks hc _)
    createProgram := fun held => held.obtain rfl rfl
    compile := fun held => held.idle rfl rfl
    destroyProgram := fun held => held.release rfl rfl }

variable {p t} {w : World (σ × List Exchange)}

/-! ### Giving back -/

/-- Asking for the texts of a failure gives nothing back. -/
theorem released_describe (status : Status) :
    released (p.recorded.describe t status w).2.native.2 = released w.native.2 := by
  simp [Platform.describe, Platform.ask, Platform.recorded, released, released?,
    Driver.Call.released?]

theorem released_ask (c : Driver.Call) :
    released (p.recorded.ask t c w).2.native.2 = released w.native.2 ++ c.released?.toList :=
  released_concat _ _

theorem released_call (c : Driver.Call) :
    released (p.recorded.call t c w).2.native.2 = released w.native.2 ++ c.released?.toList := by
  rw [← released_ask (p := p) (t := t)]
  unfold Platform.call
  rcases p.recorded.ask t c w with ⟨status | value, w'⟩
  · exact released_describe status
  · rfl

theorem released_callNvrtc (c : Nvrtc.Call) :
    released (p.recorded.callNvrtc c w).2.native.2 = released w.native.2 ++ c.released?.toList := by
  have asked (c : Nvrtc.Call) (w : World (σ × List Exchange)) :
      released (p.recorded.askNvrtc c w).2.native.2 = released w.native.2 ++ c.released?.toList :=
    released_concat _ _
  rw [← asked]
  unfold Platform.callNvrtc
  rcases p.recorded.askNvrtc c w with ⟨(code | crash) | value, w'⟩
  · exact (asked (.errorText code) w').trans (List.append_nil _)
  · rfl
  · rfl

/-- Dropping an object gives it back, unless its handle is null. -/
theorem released_drop (t : ThreadId) (o : Object) :
    released (o.drop p.recorded t w).native.2 =
      released w.native.2 ++ if o.isNull then [] else [o.resource] := by
  cases o with
  | context c =>
    by_cases null : c.handle = 0
    · simp [Object.drop, Owned.Context.drop, Object.isNull, null]
    · rw [Object.drop, (Owned.Context.warned_drop null).native, released_call]
      simp [Object.isNull, null, Driver.Call.released?, Object.resource]
  | primary c =>
    rw [Object.drop, c.warned_drop.native]
    exact released_call (.releasePrimary c.device)
  | link l =>
    by_cases null : l.handle = 0
    · simp [Object.drop, Owned.LinkSession.drop, Object.isNull, null]
    · rw [Object.drop, (Owned.LinkSession.warned_drop null).native, released_call]
      simp [Object.isNull, null, Driver.Call.released?, Object.resource]
  | module m =>
    have given := released_ask (p := p) (t := t) (w := w) (.unloadModule m.handle)
    by_cases null : m.handle = 0
    · simp [Object.drop, Owned.Module.drop, Object.isNull, null]
    · rw [Object.isNull, decide_eq_false null]
      obtain warned | ⟨status, warned⟩ := Owned.Module.warned_drop null
      · rw [Object.drop, warned.native]
        exact given
      · rw [Object.drop, warned.native]
        exact (released_describe status).trans given
  | program q =>
    rw [Object.drop, q.warned_drop.native]
    exact released_callNvrtc (.destroy q.handle)

/-- Destroying an object gives it back, whatever comes of it. -/
theorem released_destroy (t : ThreadId) (o : Object) :
    released (o.destroy p.recorded t w).2.native.2 = released w.native.2 ++ [o.resource] := by
  cases o with
  | program q => exact released_drop t (.program q)
  | _ =>
    simp only [Object.destroy, Act.snd_mapError, Owned.Context.destroy_eq,
      Owned.PrimaryContext.release_eq, Owned.LinkSession.destroy_eq, Owned.Module.unload_eq]
    exact released_call _

end Platforms

/-! ### Runs -/

namespace Session

variable {σ : Type}

/-- The calls that were made so far. -/
def record (s : Session (σ × List Exchange)) : List Exchange := s.world.native.2

/-- **Every native object is released once.** On any platform, whatever its calls are answered with, and
after any run in which nobody forgets an object:

* what was obtained with a handle that is not null, or was retained, or is a program, has been released
  as often as it was obtained, but for the objects that there still are;
* at no time had anything been released more often than it was obtained;
* destroying an object releases what it stands for, once and nothing else, and so does dropping it, unless
  its handle is null;
* at the end of the session nothing is left to release. -/
theorem released_once (p : Platform σ) (w : World σ) (xs : List Happening)
    (orderly : ∀ x ∈ xs, x.orderly = true) :
    let s := run p.recorded ⟨w.recorded, .empty⟩ xs
    (∀ x : Resource, x.isNull = false →
      (obtained s.record).count x = (released s.record).count x + owned x s.objects) ∧
    (∀ (x : Resource) (earlier : List Exchange), earlier <+: s.record →
      (released earlier).count x ≤ (obtained earlier).count x) ∧
    (∀ (t : ThreadId) (slot : String) (o : Object), s.slots.get? slot = some o →
      released (step p.recorded t (.destroy slot) s).2.record = released s.record ++ [o.resource] ∧
      released (step p.recorded t (.drop slot) s).2.record =
        released s.record ++ if o.isNull then [] else [o.resource]) ∧
    ∀ (t : ThreadId) (x : Resource), x.isNull = false →
      (obtained (finish p.recorded t s).record).count x =
        (released (finish p.recorded t s).record).count x := by
  intro s
  have settled : Settled s.objects s.record :=
    run_held (settled_accounts p) orderly (s := ⟨w.recorded, .empty⟩) Settled.nil
  refine ⟨settled.balanced, settled.backed, fun t slot o full => ⟨?_, ?_⟩, fun t x hx => ?_⟩
  · simp only [step, taking, full, acting, record]
    have given := released_destroy (p := p) (w := s.world) t o
    rcases hd : o.destroy p.recorded t s.world with ⟨e | u, w'⟩ <;> rw [hd] at given <;> exact given
  · simp only [step, taking, full, record]
    exact released_drop t o
  · have done : Settled 0 (finish p.recorded t s).record :=
      finish_held (settled_accounts p t) settled
    exact done.balanced x hx

/-- A platform that answers every new context with the same handle, and refuses everything else, so that
no context can be given back. -/
def contrary : Platform Unit where
  driver _ _ := fun
    | .createContext _ _, s => (.ok 0x10, s)
    | _, s => (.error .invalidValue, s)
  nvrtc _ s := (.error (.code .invalidInput), s)
  run _ _ := .error .notFound
  makeTemporary _ _ := .error .notFound

/-- Two contexts with one handle: the one that was dropped was released, though in vain, and the other
was not. -/
theorem released_once_contrary :
    let s := run contrary.recorded ⟨World.recorded { native := () }, .empty⟩
      [.operation 0 (.make "a" (.context ⟨0⟩ 0)), .operation 1 (.make "b" (.context ⟨0⟩ 0)),
        .operation 1 (.drop "a")]
    obtained s.record = [.context 0x10, .context 0x10] ∧ released s.record = [.context 0x10] ∧
      owned (.context 0x10) s.objects = 1 := by
  intro s
  have made : obtained s.record = [.context 0x10, .context 0x10] := rfl
  have given : released s.record = [.context 0x10] := rfl
  have once := (released_once contrary { native := () }
    [.operation 0 (.make "a" (.context ⟨0⟩ 0)), .operation 1 (.make "b" (.context ⟨0⟩ 0)),
      .operation 1 (.drop "a")] (by simp [Happening.orderly, Operation.abandons])).1
    (.context 0x10) rfl
  have once : (obtained s.record).count (.context 0x10) =
    (released s.record).count (.context 0x10) + owned (.context 0x10) s.objects := once
  rw [made, given] at once
  exact ⟨made, given, Nat.add_left_cancel (once.symm : 1 + _ = 1 + 1)⟩

end Session

end GpuDriver
