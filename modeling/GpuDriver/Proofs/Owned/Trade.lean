import Mathlib.Data.Multiset.AddSub
import GpuDriver.Session.Object

/-!
# What an action makes of owned objects

`Held objects s` says what the native state `s` has to do with the owned objects that there are. An
action trades some objects for others (`Act.Trades`) if it takes such a state to such a state, whatever
other objects there are beside those that it is given. That the others are part of the definition lets
trades be put one behind the other, around each other's clean-up, and into larger ones.
-/

namespace GpuDriver

open Session (Object)

variable {σ ε δ α β : Type}

/-- The object that an answer is made into; none without an answer. -/
def made (f : α → Object) : Option α → Multiset Object
  | some a => {f a}
  | none => 0

@[simp] theorem made_some (f : α → Object) (a : α) : made f (some a) = {f a} := rfl

@[simp] theorem made_none (f : α → Object) : made f none = 0 := rfl

@[simp] theorem toOption_ok (a : α) : (Except.ok a : Except ε α).toOption = some a := rfl

@[simp] theorem toOption_error (e : ε) : (Except.error e : Except ε α).toOption = none := rfl

/-- The errors of two actions, seen as errors of another kind. -/
theorem Act.mapError_bind (act : Act σ ε α) (next : α → Act σ ε β) (f : ε → δ) :
    (act >>= next).mapError f = act.mapError f >>= fun a => (next a).mapError f := by
  funext w
  simp only [bind, andThen, mapError]
  rcases act w with ⟨e | a, w'⟩ <;> rfl

/-- An answer is one whatever kind the errors are of. -/
@[simp] theorem Act.fst_mapError_eq_ok_iff {act : Act σ ε α} {f : ε → δ} {w : World σ} {a : α} :
    (act.mapError f w).1 = .ok a ↔ (act w).1 = .ok a := by
  unfold mapError
  rcases act w with ⟨e | a', w'⟩ <;> simp

@[simp] theorem Act.mapError_pure (a : α) (f : ε → δ) :
    (pure a : Act σ ε α).mapError f = pure a := rfl

variable (Held : Multiset Object → σ → Prop)

/-- A change of the world that uses up the objects `paid`. -/
def World.Spends (paid : Multiset Object) (f : World σ → World σ) : Prop :=
  ∀ others w, Held (paid + others) w.native → Held others (f w).native

namespace Act

/-- The action takes the objects `paid` and leaves `got` of what it answers with. -/
def Trades (paid : Multiset Object) (act : Act σ ε α) (got : Option α → Multiset Object) : Prop :=
  ∀ others w, Held (paid + others) w.native →
    Held (got (act w).1.toOption + others) (act w).2.native

/-- The action makes or uses up no object. -/
def Keeps (act : Act σ ε α) : Prop :=
  ∀ objects w, Held objects w.native → Held objects (act w).2.native

variable {Held} {act : Act σ ε α} {next : α → Act σ ε β} {paid spare : Multiset Object}
  {got : Option α → Multiset Object} {got' : Option β → Multiset Object}

/-! ### Trades -/

theorem Keeps.trades (h : Keeps Held act) (paid : Multiset Object) :
    Trades Held paid act fun _ => paid :=
  fun _ w held => h _ w held

theorem Trades.keeps (h : Trades Held 0 act fun _ => 0) : Keeps Held act := by
  intro objects w held
  simpa using h objects w (by simpa using held)

theorem Trades.pure {a : α} (h : got (some a) = paid) :
    Trades Held paid (Pure.pure a : Act σ ε α) got :=
  fun _ _ held => h ▸ held

/-- One trade behind the other, of which the first leaves the end result if it fails. -/
theorem Trades.bind {mid : Option α → Multiset Object} (first : Trades Held paid act mid)
    (second : ∀ a, Trades Held (mid (some a)) (next a) got') (failed : mid none = got' none) :
    Trades Held paid (act >>= next) got' := by
  intro others w held
  have h := first others w held
  change Held (got' (act.andThen next w).1.toOption + others) (act.andThen next w).2.native
  unfold andThen
  rcases hact : act w with ⟨e | a, w'⟩
  · rw [hact] at h
    exact failed ▸ h
  · rw [hact] at h
    exact second a others w' h

/-- A trade behind an action that makes and uses up nothing. -/
theorem Keeps.bind (first : Keeps Held act) (second : ∀ a, Trades Held paid (next a) got')
    (failed : got' none = paid) : Trades Held paid (act >>= next) got' :=
  (first.trades paid).bind second failed.symm

theorem Keeps.andThen (first : Keeps Held act) (second : ∀ a, Keeps Held (next a)) :
    Keeps Held (act >>= next) :=
  (first.bind (fun a => (second a).trades 0) rfl).keeps

theorem Trades.mapError (h : Trades Held paid act got) (f : ε → δ) :
    Trades Held paid (act.mapError f) got := by
  intro others w held
  have h := h others w held
  unfold Act.mapError
  rcases hact : act w with ⟨e | a, w'⟩ <;> rw [hact] at h <;> exact h

theorem Keeps.mapError (h : Keeps Held act) (f : ε → δ) : Keeps Held (act.mapError f) :=
  ((h.trades 0).mapError f).keeps

theorem Trades.attempt (h : Trades Held paid act fun _ => spare) :
    Trades Held paid (act.attempt : Act σ δ (Except ε α)) fun _ => spare :=
  fun others w held => h others w held

theorem Keeps.attempt (h : Keeps Held act) : Keeps Held (act.attempt : Act σ δ (Except ε α)) :=
  fun objects w held => h objects w held

/-- An action that leaves the native state alone. -/
theorem Keeps.of_native_eq (h : ∀ w, (act w).2.native = w.native) : Keeps Held act := by
  intro objects w held
  rwa [h]

theorem keeps_pure (a : α) : Keeps Held (Pure.pure a : Act σ ε α) := .of_native_eq fun _ => rfl

theorem keeps_fail (e : ε) : Keeps Held (fail e : Act σ ε α) := .of_native_eq fun _ => rfl

theorem keeps_ofExcept (answer : Except ε α) : Keeps Held (ofExcept answer : Act σ ε α) :=
  .of_native_eq fun _ => rfl

theorem keeps_look (f : World σ → α) : Keeps Held (look f : Act σ ε α) :=
  .of_native_eq fun _ => rfl

theorem keeps_change {f : World σ → World σ} (h : ∀ w, (f w).native = w.native) :
    Keeps Held (change f : Act σ ε Unit) :=
  .of_native_eq h

theorem keeps_warn (message : String) :
    Keeps Held (change fun w => w.warn message : Act σ ε Unit) :=
  .of_native_eq fun _ => rfl

theorem keeps_writeFile (path : Path) (contents : Bytes) :
    Keeps Held (writeFile path contents : Act σ IoError Unit) := by
  refine .of_native_eq fun w => ?_
  unfold writeFile
  split
  · rfl
  · split <;> rfl

/-! ### Cleaning up -/

/-- What a failed action leaves is cleaned up. -/
theorem Trades.orElseClean (h : Trades Held paid act got) {cleanup : World σ → World σ}
    (clean : World.Spends Held (got none) cleanup) :
    Trades Held paid (act.orElseClean cleanup) fun a => if a.isSome then got a else 0 := by
  intro others w held
  have h := h others w held
  unfold Act.orElseClean
  rcases hact : act w with ⟨e | a, w'⟩ <;> rw [hact] at h
  · have spent := clean others w' h
    simpa using spent
  · simpa using h

/-- What an action leaves in any case is cleaned up. -/
theorem Trades.thenClean (h : Trades Held paid act fun _ => spare) {cleanup : World σ → World σ}
    (clean : World.Spends Held spare cleanup) :
    Trades Held paid (act.thenClean cleanup) fun _ => 0 := by
  intro others w held
  exact (Multiset.zero_add others).symm ▸ clean others _ (h others w held)

theorem Keeps.orElseClean (h : Keeps Held act) {cleanup : World σ → World σ}
    (clean : ∀ w, (cleanup w).native = w.native) : Keeps Held (act.orElseClean cleanup) := by
  intro objects w held
  have h := h objects w held
  unfold Act.orElseClean
  rcases hact : act w with ⟨e | a, w'⟩ <;> rw [hact] at h
  · exact (clean w').symm ▸ h
  · exact h

theorem Keeps.thenClean (h : Keeps Held act) {cleanup : World σ → World σ}
    (clean : ∀ w, (cleanup w).native = w.native) : Keeps Held (act.thenClean cleanup) := by
  intro objects w held
  exact (clean _).symm ▸ h objects w held

/-- Using something up, as an action. -/
theorem trades_change {f : World σ → World σ} (h : World.Spends Held paid f) :
    Trades Held paid (change f : Act σ ε Unit) fun _ => 0 := by
  intro others w held
  exact (Multiset.zero_add others).symm ▸ h others w held

end Act

end GpuDriver
