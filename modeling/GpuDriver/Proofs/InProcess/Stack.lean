import GpuDriver.Proofs.InProcess.Change

/-!
# Stacks of contexts

The stack of a thread depends on nothing but the thread's own successful calls. Three kinds of calls
move it (`Success.restack`): creating a context pushes it, setting the current context replaces the top
or takes it off, and destroying a context takes the top off exactly if the context is there. All other
calls of the thread, and all calls of other threads, leave the stack as it is (`State.stackOf_run`).
-/

namespace GpuDriver

/-- The calls that can move the stack of the thread that makes them. -/
def Driver.Call.movesStack : Driver.Call → Bool
  | .createContext _ _ | .setCurrentContext _ | .destroyContext _ => true
  | _ => false

namespace InProcess

open State

/-- A call that succeeded, with its answer. -/
structure Success where
  /-- The call. -/
  call : Driver.Call
  /-- The answer. -/
  value : call.Value

/-- What a successful call makes of the stack of the thread that makes it; the top comes first. -/
def Success.restack : Success → List Handle → List Handle
  | ⟨.createContext _ _, c⟩, stack => c :: stack
  | ⟨.setCurrentContext c, _⟩, stack => if c = 0 then stack.tail else c :: stack.tail
  | ⟨.destroyContext c, _⟩, stack => if stack.head? = some c then stack.tail else stack
  | _, stack => stack

theorem Success.restack_of_not_movesStack {x : Success} (h : x.call.movesStack = false)
    (stack : List Handle) : x.restack stack = stack := by
  obtain ⟨c, value⟩ := x
  cases c with
  | createContext | setCurrentContext | destroyContext => cases h
  | _ => rfl

/-- The success that an event on the thread is, if it is one. -/
def State.success? (s : State) (t : ThreadId) (e : Event) : Option Success :=
  if e.thread = t then
    match s.reply e with
    | .ok value => some ⟨e.call, value⟩
    | .error _ => none
  else none

/-- The successful calls of a thread in a run, in order. -/
def State.successes (s : State) (t : ThreadId) : List Event → List Success
  | [] => []
  | e :: es => (s.success? t e).toList ++ (s.after e).successes t es

variable {s s' : State} {t u : ThreadId}

/-! ### Calls that leave the stack alone -/

/-- A call moves no stack but that of its thread, and that only if it is of one of three kinds. -/
theorem Change.stackOf_eq {c : Driver.Call} (h : Change t s c s')
    (hu : u ≠ t ∨ c.movesStack = false) : s'.stackOf u = s.stackOf u := by
  cases h with
  | pop | replace | destroyTop | create =>
    rcases hu with hu | hu
    · exact if_neg hu
    · cases hu
  | _ => rfl

/-! ### Calls that move the stack -/

theorem stackOf_withStack_self (s : State) (t : ThreadId) (stack : List Handle) :
    (s.withStack t stack).stackOf t = stack := if_pos rfl

theorem stackOf_createContext {flags : Nat} {d : Device} {c : Handle}
    (h : s.createContext t flags d = (.ok c, s')) : s'.stackOf t = c :: s.stackOf t := by
  obtain ⟨-, -, -, rfl, rfl⟩ := createContext_eq_ok_iff.1 h
  exact stackOf_withStack_self ..

theorem stackOf_setCurrentContext {c : Handle} {x : Unit}
    (h : s.setCurrentContext t c = (.ok x, s')) :
    s'.stackOf t = if c = 0 then (s.stackOf t).tail else c :: (s.stackOf t).tail := by
  obtain ⟨-, ⟨rfl, rfl⟩ | ⟨nonzero, -, rfl⟩⟩ := setCurrentContext_eq_ok_iff.1 h
  · exact stackOf_withStack_self ..
  · rw [if_neg nonzero]
    exact stackOf_withStack_self ..

theorem stackOf_destroyContext {c : Handle} {x : Unit}
    (h : s.destroyContext t c = (.ok x, s')) :
    s'.stackOf t = if (s.stackOf t).head? = some c then (s.stackOf t).tail else s.stackOf t := by
  obtain ⟨-, -, rfl⟩ := destroyContext_eq_ok_iff.1 h
  change State.stackOf (if (s.stackOf t).head? = some c then _ else _) t = _
  split
  · exact stackOf_withStack_self ..
  · rfl

/-! ### Events and runs -/

/-- A call that leaves no trace when it fails moves the stack as its success does. -/
theorem stackOf_kept {files : FileTree} {c : Driver.Call} (kept : Keeps s (step t files c s))
    (h : ∀ a s', step t files c s = (.ok a, s') →
      s'.stackOf t = Success.restack ⟨c, a⟩ (s.stackOf t)) :
    (s.after ⟨t, files, c⟩).stackOf t =
      (s.success? t ⟨t, files, c⟩).elim (s.stackOf t) fun x => x.restack (s.stackOf t) := by
  rcases answered : step t files c s with ⟨e | a, s'⟩
  · simp [after, success?, reply, answered, kept e s' answered]
  · simpa [after, success?, reply, answered] using h a s' answered

/-- An event moves the stack as the success that it is, if it is one. -/
theorem stackOf_after (s : State) (t : ThreadId) (e : Event) :
    (s.after e).stackOf t =
      (s.success? t e).elim (s.stackOf t) fun x => x.restack (s.stackOf t) := by
  by_cases ht : t = e.thread
  · subst ht
    obtain ⟨t, files, c⟩ := e
    by_cases hc : c.movesStack = false
    · -- the answer does not matter
      rw [(change_after s ⟨t, files, c⟩).stackOf_eq (Or.inr hc), success?, if_pos rfl]
      cases s.reply ⟨t, files, c⟩ with
      | error e => rfl
      | ok value => exact (Success.restack_of_not_movesStack hc _).symm
    · cases c with
      | createContext flags d =>
        exact stackOf_kept (keeps_createContext s t flags d) fun _ _ => stackOf_createContext
      | setCurrentContext c =>
        exact stackOf_kept (keeps_setCurrentContext s t c) fun _ _ => stackOf_setCurrentContext
      | destroyContext c =>
        exact stackOf_kept (keeps_destroyContext s t c) fun _ _ => stackOf_destroyContext
      | _ => exact absurd rfl hc
  · rw [(change_after s e).stackOf_eq (Or.inl ht), success?, if_neg fun h => ht h.symm]
    rfl

/-- **The stack of a thread is the fold of its own successful calls**, whatever other threads do. -/
theorem stackOf_run (s : State) (t : ThreadId) (es : List Event) :
    (s.run es).stackOf t =
      (s.successes t es).foldl (fun stack x => x.restack stack) (s.stackOf t) := by
  induction es generalizing s with
  | nil => rfl
  | cons e es ih =>
    rw [run_cons, ih, stackOf_after, successes, List.foldl_append]
    cases s.success? t e <;> rfl

end InProcess

end GpuDriver
