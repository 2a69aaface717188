import GpuDriver.Proofs.InProcess.Lifetime
import GpuDriver.Proofs.InProcess.Nesting

/-!
# Primary contexts are counted

The count of a device's primary context goes up by one with each retain that succeeds and down by one
with each such release (`retains_run`). The context lives as long as the count stays above zero, with all
that is loaded into it, and ends with the release that brings the count to zero; the next retain makes a
new one (`primary_context_lifetime`).
-/

namespace GpuDriver

/-- The call retains the primary context of the device. -/
def Driver.Call.retains (d : Device) : Driver.Call → Bool
  | .retainPrimary d' => d' = d
  | _ => false

/-- The call releases the primary context of the device. -/
def Driver.Call.releases (d : Device) : Driver.Call → Bool
  | .releasePrimary d' => d' = d
  | _ => false

namespace InProcess

open State

/-- The primary context of the device is `c`, and it is retained. -/
def State.Retained (s : State) (d : Device) (c : Handle) : Prop :=
  ∃ n, s.primaries.get? d.ordinal = some ⟨c, n⟩

/-- The primary context of the device is retained at every point of a run, its two ends included. -/
def State.StaysRetained (s : State) (d : Device) (es : List Event) : Prop :=
  ∀ front back, es = front ++ back → 0 < (s.run front).retains d

variable {s s' : State} {t : ThreadId} {call : Driver.Call} {d d' : Device} {c : Handle}
  {p : Primary}

/-! ### Counts -/

theorem retains_of_ne (h : s'.primaries.get? d.ordinal = s.primaries.get? d.ordinal) :
    s'.retains d = s.retains d := by
  rw [State.retains, State.retains, h]

/-- What is retained is counted. -/
theorem State.Retained.pos (hi : Integrity s) (h : s.Retained d c) : 0 < s.retains d := by
  obtain ⟨n, hp⟩ := h
  rw [retains_of_get? hp]
  exact (hi.primary_alive hp).1

theorem ordinal_ne (h : d ≠ d') : d.ordinal ≠ d'.ordinal := by
  rintro same
  cases d
  cases d'
  exact h (congrArg Device.mk same)

/-- Only retains and releases of a device touch what is known of its primary context. -/
theorem Change.primaries_get? (h : Change t s call s') (retain : call.retains d = false)
    (release : call.releases d = false) :
    s'.primaries.get? d.ordinal = s.primaries.get? d.ordinal := by
  cases h with
  | retainAgain | retainFirst =>
    exact Table.get?_insert_of_ne (ordinal_ne fun same => by simp [Driver.Call.retains, same] at retain) _
  | releaseOne =>
    exact Table.get?_insert_of_ne
      (ordinal_ne fun same => by simp [Driver.Call.releases, same] at release) _
  | releaseLast =>
    rw [Table.get?_erase, if_neg]
    exact ordinal_ne fun same => by simp [Driver.Call.releases, same] at release
  | _ => rfl

/-- A retain that succeeds counts one more. -/
theorem retains_retainPrimary (h : s.retainPrimary d = (.ok c, s')) :
    s'.retains d = s.retains d + 1 := by
  obtain ⟨-, -, ⟨p, hp, -, rfl⟩ | ⟨hp, -, rfl⟩⟩ := retainPrimary_eq_ok_iff.1 h
  · rw [retains_of_get? hp, retains_of_insert (s := s) rfl, if_pos rfl]
  · rw [retains_of_get?_eq_none hp, retains_of_insert (s := s) rfl, if_pos rfl]

/-- A release that succeeds counts one less. -/
theorem retains_releasePrimary (hi : Integrity s) {u : Unit}
    (h : s.releasePrimary d = (.ok u, s')) : s'.retains d + 1 = s.retains d := by
  obtain ⟨-, -, p, hp, ⟨more, rfl⟩ | ⟨last, rfl⟩⟩ := releasePrimary_eq_ok_iff.1 h
  · rw [retains_of_get? hp, retains_of_insert (s := s) rfl, if_pos rfl]
    exact Nat.sub_add_cancel (Nat.le_of_lt more)
  · have one : p.retains = 1 := Nat.le_antisymm last (hi.primary_alive hp).1
    rw [retains_of_get? hp, one, retains_of_erase (s := s) rfl, if_pos rfl]

/-- What an event makes of the count of a device. -/
theorem retains_after (hi : Integrity s) (d : Device) (e : Event) :
    (s.after e).retains d + (s.succeeded [e]).countP (·.releases d) =
      s.retains d + (s.succeeded [e]).countP (·.retains d) := by
  cases answered : s.reply e with
  | error status =>
    rw [succeeded_of_failed answered, hi.after_of_failed answered]
    rfl
  | ok value =>
    rw [succeeded_of_ok answered, succeeded, List.countP_singleton, List.countP_singleton]
    obtain ⟨t, files, call⟩ := e
    cases retain : call.retains d with
    | true =>
      cases call with
      | retainPrimary d' =>
        obtain rfl : d' = d := by simpa [Driver.Call.retains] using retain
        obtain ⟨s', answered, left⟩ := exists_of_reply answered
        have left : s.after ⟨t, files, .retainPrimary d'⟩ = s' := left
        rw [left, retains_retainPrimary answered]
        rfl
      | _ => cases retain
    | false =>
      cases release : call.releases d with
      | true =>
        cases call with
        | releasePrimary d' =>
          obtain rfl : d' = d := by simpa [Driver.Call.releases] using release
          obtain ⟨s', answered, left⟩ := exists_of_reply answered
          have left : s.after ⟨t, files, .releasePrimary d'⟩ = s' := left
          rw [left]
          exact retains_releasePrimary hi answered
        | _ => cases release
      | false =>
        rw [retains_of_ne ((change_after s ⟨t, files, call⟩).primaries_get? retain release)]

/-- **The count of a device** is what its successful retains and releases make of it. -/
theorem retains_run (hi : Integrity s) (d : Device) (es : List Event) :
    (s.run es).retains d + (s.succeeded es).countP (·.releases d) =
      s.retains d + (s.succeeded es).countP (·.retains d) := by
  induction es generalizing s with
  | nil => rfl
  | cons e es ih =>
    have first := retains_after hi d e
    have rest := ih (hi.change (change_after s e))
    rw [run_cons, show e :: es = [e] ++ es from rfl, succeeded_append, List.countP_append,
      List.countP_append, run_cons, run_nil]
    lia

/-! ### Retains and releases -/

/-- A device's primary context can be released exactly if it is retained. -/
theorem reply_releasePrimary (hi : Integrity s) (up : s.initialized = true) (known : s.HasDevice d)
    (t : ThreadId) (files : FileTree) : s.reply ⟨t, files, .releasePrimary d⟩ =
      if s.retains d = 0 then .error .invalidContext else .ok () := by
  change (s.releasePrimary d).1 = _
  cases hp : s.primaries.get? d.ordinal with
  | none =>
    rw [if_pos (retains_of_get?_eq_none hp), releasePrimary,
      requireDevice_eq_ok_iff (u := ()).2 ⟨up, known⟩, hp]
    rfl
  | some p =>
    have pos : 0 < s.retains d := State.Retained.pos hi ⟨_, hp⟩
    rw [if_neg (Nat.ne_of_gt pos)]
    rcases Nat.lt_or_ge 1 p.retains with more | last
    · rw [releasePrimary_eq_ok_iff (u := ()).2 ⟨up, known, p, hp, Or.inl ⟨more, rfl⟩⟩]
    · rw [releasePrimary_eq_ok_iff (u := ()).2 ⟨up, known, p, hp, Or.inr ⟨last, rfl⟩⟩]

/-- To retain a primary context that is retained gives the same context. -/
theorem reply_retainPrimary (hi : Integrity s) (h : s.Retained d c) (t : ThreadId)
    (files : FileTree) : s.reply ⟨t, files, .retainPrimary d⟩ = .ok c := by
  obtain ⟨n, hp⟩ := h
  have alive := (hi.primary_alive hp).2
  change (s.retainPrimary d).1 = _
  rw [retainPrimary_eq_ok_iff.2
    ⟨hi.initialized alive, hi.device_known alive, Or.inl ⟨_, hp, rfl, rfl⟩⟩]

/-- The context that a retain answers is retained from then on. -/
theorem retained_of_reply {files : FileTree}
    (answered : s.reply ⟨t, files, .retainPrimary d⟩ = .ok c) :
    (s.after ⟨t, files, .retainPrimary d⟩).Retained d c := by
  obtain ⟨s', answered, left⟩ := exists_of_reply answered
  have left : s.after ⟨t, files, .retainPrimary d⟩ = s' := left
  rw [left]
  obtain ⟨-, -, ⟨p, -, rfl, rfl⟩ | ⟨-, rfl, rfl⟩⟩ := retainPrimary_eq_ok_iff.1 answered
  · exact ⟨_, Table.get?_insert_self ..⟩
  · exact ⟨_, Table.get?_insert_self ..⟩

/-- A retain of what is not retained gives the next handle. -/
theorem eq_next_of_reply {files : FileTree} (zero : s.retains d = 0) (hi : Integrity s)
    (answered : s.reply ⟨t, files, .retainPrimary d⟩ = .ok c) : c = s.lastHandle + handleStep := by
  obtain ⟨s', answered, -⟩ := exists_of_reply answered
  obtain ⟨-, -, ⟨p, hp, -⟩ | ⟨-, rfl, -⟩⟩ := retainPrimary_eq_ok_iff.1 answered
  · exact absurd zero (Nat.ne_of_gt (State.Retained.pos hi ⟨_, hp⟩))
  · rfl

/-- A context that no one created with a call of its own cannot be destroyed. -/
theorem reply_destroyContext (up : s.initialized = true)
    (other : ∀ d, s.contexts.get? c ≠ some ⟨d, false⟩) (t : ThreadId) (files : FileTree) :
    s.reply ⟨t, files, .destroyContext c⟩ = .error .invalidContext := by
  have refused : s.destroyContext t c = (.error .invalidContext, s) := by
    rw [destroyContext, requireInit_eq_ok_iff (u := ()).2 up]
    rcases found : s.contexts.get? c with _ | ⟨d, primary⟩
    · rfl
    · cases primary with
      | true => rfl
      | false => exact absurd found (other d)
  exact congrArg Prod.fst refused

/-! ### How long it lives -/

/-- A primary context stays retained, or its count is zero and it is gone. -/
theorem Change.retained (h : Change t s call s') (hr : s.Retained d c) :
    s'.Retained d c ∨ s'.retains d = 0 ∧ c ∉ s'.contexts.keys := by
  obtain ⟨n, hp⟩ := hr
  cases h with
  | @retainAgain d' p up retained =>
    rcases Decidable.em (d = d') with rfl | other
    · cases hp.symm.trans retained
      exact Or.inl ⟨_, Table.get?_insert_self ..⟩
    · exact Or.inl ⟨n, (Table.get?_insert_of_ne (ordinal_ne other) _).trans hp⟩
  | @retainFirst d' up known unretained =>
    rcases Decidable.em (d = d') with rfl | other
    · cases hp.symm.trans unretained
    · exact Or.inl ⟨n, (Table.get?_insert_of_ne (ordinal_ne other) _).trans hp⟩
  | @releaseOne d' p up retained more =>
    rcases Decidable.em (d = d') with rfl | other
    · cases hp.symm.trans retained
      exact Or.inl ⟨_, Table.get?_insert_self ..⟩
    · exact Or.inl ⟨n, (Table.get?_insert_of_ne (ordinal_ne other) _).trans hp⟩
  | @releaseLast d' p up retained last =>
    rcases Decidable.em (d = d') with rfl | other
    · cases hp.symm.trans retained
      refine Or.inr ⟨?_, fun alive => (Table.mem_keys_erase.1 alive).1 rfl⟩
      rw [retains_of_erase (s := s) rfl, if_pos rfl]
    · exact Or.inl ⟨n, Table.get?_erase_eq_some_iff.2 ⟨ordinal_ne other, hp⟩⟩
  | _ => exact Or.inl ⟨n, hp⟩

theorem staysRetained_nil : s.StaysRetained d [] ↔ 0 < s.retains d := by
  constructor
  · exact fun h => h [] [] rfl
  · rintro h front back split
    obtain ⟨rfl, rfl⟩ := List.append_eq_nil_iff.1 split.symm
    exact h

theorem staysRetained_cons {e : Event} {es : List Event} :
    s.StaysRetained d (e :: es) ↔ 0 < s.retains d ∧ (s.after e).StaysRetained d es := by
  constructor
  · intro h
    refine ⟨h [] (e :: es) rfl, ?_⟩
    rintro front back rfl
    exact h (e :: front) back rfl
  · rintro ⟨first, rest⟩ front back split
    cases front with
    | nil => exact first
    | cons e' front =>
      obtain ⟨rfl, rfl⟩ := List.cons.inj split
      exact rest front back rfl

/-- A primary context is retained as long as its count stays above zero, and else it is gone. -/
theorem retained_run (hi : Integrity s) (h : s.Retained d c) (es : List Event) :
    (s.StaysRetained d es ∧ (s.run es).Retained d c) ∨
      ¬ s.StaysRetained d es ∧ c ∉ (s.run es).contexts.keys := by
  induction es generalizing s with
  | nil => exact Or.inl ⟨staysRetained_nil.2 (h.pos hi), h⟩
  | cons e es ih =>
    have changed := change_after s e
    rw [staysRetained_cons, run_cons]
    obtain kept | ⟨zero, gone⟩ := changed.retained h
    · obtain ⟨stays, retained⟩ | ⟨falls, dead⟩ := ih (hi.change changed) kept
      · exact Or.inl ⟨⟨h.pos hi, stays⟩, retained⟩
      · exact Or.inr ⟨fun stays => falls stays.2, dead⟩
    · refine Or.inr ⟨fun stays => ?_, fun alive => gone ?_⟩
      · exact absurd zero (Nat.ne_of_gt (stays.2 [] es rfl))
      · obtain ⟨n, hp⟩ := h
        have alive' : c ∈ s.contexts.keys := Table.mem_keys.2 ⟨_, (hi.primary_alive hp).2⟩
        have old := (hi.key_bounds (k := .context) alive').2
        exact mem_keysOf_of_run (k := .context) (Nat.le_trans old changed.lastHandle_le) alive

/-- **How long a primary context lives.** After any run of any threads, the count of each device is the
number of its successful retains less that of its successful releases, and a release of a device that
there is fails exactly if the count is zero. What a retain answers is new if the count was zero; and
whatever comes later, as long as the count stays above zero each retain answers the same; the context is
alive exactly as long; so is each module that is loaded into it meanwhile, unless it is unloaded; and the
context can never be destroyed by a call of its own, which changes nothing. -/
theorem primary_context_lifetime (devices : Int) (capability : Int × Int) (es : List Event) :
    let s₀ := fresh devices capability
    let s := s₀.run es
    (∀ d, s.retains d + (s₀.succeeded es).countP (·.releases d) =
      (s₀.succeeded es).countP (·.retains d)) ∧
    (∀ t files d, s.initialized = true → s.HasDevice d →
      s.reply ⟨t, files, .releasePrimary d⟩ =
        if s.retains d = 0 then .error .invalidContext else .ok ()) ∧
    ∀ t files d c, s.reply ⟨t, files, .retainPrimary d⟩ = .ok c →
      let s₁ := s.after ⟨t, files, .retainPrimary d⟩
      (s.retains d = 0 → c ∉ s₀.issuedIn es) ∧
      ∀ later, let s' := s₁.run later
        (c ∈ s'.contexts.keys ↔ s₁.StaysRetained d later) ∧
        (s₁.StaysRetained d later → ∀ u tree, s'.reply ⟨u, tree, .retainPrimary d⟩ = .ok c) ∧
        (∀ front back m loaded, later = front ++ back →
          (s₁.run front).modules.get? m = some loaded → loaded.context = c →
            (m ∈ s'.modules.keys ↔
              s₁.StaysRetained d later ∧ .unloadModule m ∉ (s₁.run front).succeeded back)) ∧
        ∀ u tree, s'.reply ⟨u, tree, .destroyContext c⟩ = .error .invalidContext ∧
          s'.after ⟨u, tree, .destroyContext c⟩ = s' := by
  intro s₀ s
  have hi : Integrity s := integrity_run devices capability es
  refine ⟨fun d => ?_, fun t files d up known => reply_releasePrimary hi up known t files,
    fun t files d c answered => ?_⟩
  · have counted := retains_run (integrity_fresh devices capability) d es
    rwa [show (fresh devices capability).retains d = 0 from rfl, Nat.zero_add] at counted
  intro s₁
  constructor
  · intro zero given
    have new := eq_next_of_reply zero hi answered
    have old : c ≤ s.lastHandle := ((givesOut_run s₀ es).new c given).2
    have pos := handleStep_pos
    lia
  intro later s'
  have hi₁ : Integrity s₁ := hi.change (change_after s _)
  have hi' : Integrity s' := hi₁.run later
  have up : s'.initialized = true := by
    obtain ⟨n, hp⟩ := retained_of_reply answered
    exact (later_run s₁ later).started (hi₁.initialized (hi₁.primary_alive hp).2)
  have lives : c ∈ s'.contexts.keys ↔ s₁.StaysRetained d later := by
    obtain ⟨stays, n, hp⟩ | ⟨falls, gone⟩ := retained_run hi₁ (retained_of_reply answered) later
    · exact iff_of_true (Table.mem_keys.2 ⟨_, (hi'.primary_alive hp).2⟩) stays
    · exact iff_of_false gone falls
  refine ⟨lives, fun stays u tree => ?_, ?_, fun u tree => ?_⟩
  · obtain ⟨-, retained⟩ | ⟨falls, -⟩ := retained_run hi₁ (retained_of_reply answered) later
    · exact reply_retainPrimary hi' retained u tree
    · exact absurd stays falls
  · rintro front back m loaded rfl hm rfl
    rw [← lives, show s' = (s₁.run front).run back from run_append s₁ front back]
    exact mem_modules_run_iff (hi₁.run front) hm back
  · have refused : s'.reply ⟨u, tree, .destroyContext c⟩ = .error .invalidContext := by
      refine reply_destroyContext up (fun d' found => ?_) u tree
      obtain ⟨-, n, hp⟩ | ⟨-, gone⟩ := retained_run hi₁ (retained_of_reply answered) later
      · cases found.symm.trans (hi'.primary_alive hp).2
      · exact gone (Table.mem_keys.2 ⟨_, found⟩)
    exact ⟨refused, after_eq_self_of_failed refused rfl rfl⟩

/-- Two threads retain the primary context of a device, and one of them loads a module into it. The module
outlives the first release and not the second. Retained again after a last release, the device has
another context. -/
theorem primary_context_lifetime_shared :
    let s₀ := fresh 2 (7, 0)
    let retain (t : ThreadId) : Event := ⟨t, {}, .retainPrimary ⟨1⟩⟩
    let release (t : ThreadId) : Event := ⟨t, {}, .releasePrimary ⟨1⟩⟩
    let s₁ := (s₀.run [⟨0, {}, .init 0⟩]).after (retain 0)
    let front := [retain 1, ⟨1, {}, .setCurrentContext 0x1100⟩, octetLoad 1]
    (s₀.run [⟨0, {}, .init 0⟩]).reply (retain 0) = .ok 0x1100 ∧
      0x1200 ∈ (s₁.run front).modules.keys ∧
      0x1200 ∈ (s₁.run (front ++ [release 0])).modules.keys ∧
      0x1200 ∉ (s₁.run (front ++ [release 0, release 1])).modules.keys ∧
      (s₁.run (front ++ [release 0, release 1])).reply ⟨0, {}, .destroyContext 0x1100⟩ =
        .error .invalidContext ∧
      (s₁.run [release 0]).reply (retain 1) = .ok 0x1200 ∧
      0x1200 ∉ s₀.issuedIn [⟨0, {}, .init 0⟩, retain 0, release 0] := by
  intro s₀ retain release s₁ front
  have answered : (s₀.run [⟨0, {}, .init 0⟩]).reply (retain 0) = .ok 0x1100 := rfl
  have loaded : s₁.run front = _ :=
    after_octetLoad (s := s₁.run [retain 1, ⟨1, {}, .setCurrentContext 0x1100⟩]) (c := 0x1100) rfl
      (by decide)
  have found : (s₁.run front).modules.get? 0x1200 = some _ :=
    (congrArg (fun s : State => s.modules.get? 0x1200) loaded).trans (Table.get?_insert_self ..)
  have count : 0 < (s₁.run front).retains ⟨1⟩ := by
    rw [loaded]
    decide
  have counted : 0 < ((s₁.run front).after (release 0)).retains ⟨1⟩ := by
    rw [loaded]
    decide
  have shared := ((primary_context_lifetime 2 (7, 0) [⟨0, {}, .init 0⟩]).2.2 0 {} ⟨1⟩ 0x1100
    answered).2
  obtain ⟨-, -, once, -⟩ := shared (front ++ [release 0])
  obtain ⟨-, -, twice, never⟩ := shared (front ++ [release 0, release 1])
  refine ⟨answered, Table.mem_keys.2 ⟨_, found⟩, (once front _ 0x1200 _ rfl found rfl).2 ⟨?_, ?_⟩,
    fun alive => ?_, (never 0 {}).1, rfl, ?_⟩
  · simp only [front, List.cons_append, List.nil_append, staysRetained_cons, staysRetained_nil]
    exact ⟨by decide, by decide, by decide, count, counted⟩
  · intro unloaded
    simpa using mem_map_of_mem_succeeded unloaded
  · have zero : (s₁.run (front ++ [release 0, release 1])).retains ⟨1⟩ = 0 := by
      rw [run_append, loaded]
      decide
    have stays := ((twice front _ 0x1200 _ rfl found rfl).1 alive).1
    exact absurd zero (Nat.ne_of_gt (stays _ [] (List.append_nil _).symm))
  · exact ((primary_context_lifetime 2 (7, 0) [⟨0, {}, .init 0⟩, retain 0, release 0]).2.2
      1 {} ⟨1⟩ 0x1200 rfl).1 rfl

end InProcess

end GpuDriver
