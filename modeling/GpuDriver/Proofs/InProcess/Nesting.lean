import GpuDriver.Proofs.InProcess.Integrity
import GpuDriver.Proofs.InProcess.Stack

/-!
# Nested contexts

A thread that destroys its contexts in the reverse order of their creation, and does not move its stack
otherwise, gets its stack back (`stack_discipline`): each destruction succeeds, and while contexts are
open the innermost one is current and alive. Other threads may do what they like, except destroy an open
context.
-/

namespace GpuDriver.InProcess

open State

/-- In the run `es` from the books `s` the thread `t` creates and destroys contexts in a nested way; the
contexts `opened` were created in it and not destroyed yet, the innermost first. -/
inductive Nesting (t : ThreadId) (s : State) : List Event → List Handle → Prop
  /-- Nothing has happened yet. -/
  | start : Nesting t s [] []
  /-- The thread creates a context. -/
  | create {es : List Event} {opened : List Handle} {files : FileTree} {flags : Nat} {d : Device}
      {c : Handle} (h : Nesting t s es opened)
      (created : (s.run es).reply ⟨t, files, .createContext flags d⟩ = .ok c) :
      Nesting t s (es ++ [⟨t, files, .createContext flags d⟩]) (c :: opened)
  /-- The thread destroys the innermost context. -/
  | destroy {es : List Event} {opened : List Handle} {files : FileTree} {c : Handle}
      (h : Nesting t s es (c :: opened)) :
      Nesting t s (es ++ [⟨t, files, .destroyContext c⟩]) opened
  /-- The thread makes a call that moves no stack, or another thread makes a call that destroys no open
  context. -/
  | other {es : List Event} {opened : List Handle} {e : Event} (h : Nesting t s es opened)
      (own : e.thread = t → e.call.movesStack = false)
      (foreign : e.thread ≠ t → ∀ c ∈ opened, e.call ≠ .destroyContext c) :
      Nesting t s (es ++ [e]) opened

variable {s s' : State} {t u : ThreadId} {opened : List Handle} {es : List Event}

namespace Nesting

/-! ### Parts of a nested run -/

theorem of_concat {e : Event} (h : Nesting t s (es ++ [e]) opened) :
    ∃ opened', Nesting t s es opened' := by
  generalize hes : es ++ [e] = es' at h
  cases h with
  | start => simp at hes
  | create h | destroy h | other h =>
    obtain ⟨rfl, -⟩ := List.append_inj' hes rfl
    exact ⟨_, h⟩

/-- A nested run is nested up to any point. -/
theorem of_append {before after : List Event} (h : Nesting t s (before ++ after) opened) :
    ∃ opened', Nesting t s before opened' := by
  induction after generalizing before with
  | nil => exact ⟨opened, by simpa using h⟩
  | cons e after ih =>
    have h' : Nesting t s ((before ++ [e]) ++ after) opened := by simpa using h
    obtain ⟨_, he⟩ := ih h'
    exact he.of_concat

/-- The thread only ever destroys the innermost context. -/
theorem of_concat_destroy {files : FileTree} {c : Handle}
    (h : Nesting t s (es ++ [⟨t, files, .destroyContext c⟩]) opened) :
    Nesting t s es (c :: opened) := by
  generalize hes : es ++ [⟨t, files, .destroyContext c⟩] = es' at h
  cases h with
  | start => simp at hes
  | create h created => simp at hes
  | destroy h =>
    obtain ⟨rfl, he⟩ := List.append_inj' hes rfl
    simp only [List.cons.injEq, Event.mk.injEq, Driver.Call.destroyContext.injEq] at he
    rw [he.1.2.2]
    exact h
  | other h own foreign =>
    obtain ⟨rfl, he⟩ := List.append_inj' hes rfl
    obtain rfl := (List.cons.inj he).1
    cases own rfl

end Nesting

/-! ### What is kept -/

/-- A context that is not primary stays alive until it is destroyed. -/
theorem Change.contexts_get? {call : Driver.Call} (hi : Integrity s) (h : Change t s call s')
    {c : Handle} {d : Device} (hc : s.contexts.get? c = some ⟨d, false⟩)
    (hne : call ≠ .destroyContext c) : s'.contexts.get? c = some ⟨d, false⟩ := by
  have old : c ≠ s.lastHandle + handleStep := hi.ne_next (k := .context) (Table.mem_keys.2 ⟨_, hc⟩)
  cases h with
  | retainFirst | create => exact (Table.get?_insert_of_ne old _).trans hc
  | releaseLast up retained last =>
    refine Table.get?_erase_eq_some_iff.2 ⟨?_, hc⟩
    rintro rfl
    simp [(hi.primary_alive retained).2] at hc
  | destroyTop | destroyOther =>
    exact Table.get?_erase_eq_some_iff.2 ⟨fun he => hne (he ▸ rfl), hc⟩
  | _ => exact hc

/-- The contexts that are open lie on top of what the stack was before, no two are the same, and each of
them is alive. -/
structure Open (t : ThreadId) (base : List Handle) (s : State) (opened : List Handle) : Prop where
  stack : s.stackOf t = opened ++ base
  nodup : opened.Nodup
  alive : ∀ c ∈ opened, ∃ d, s.contexts.get? c = some ⟨d, false⟩

variable {base : List Handle} {c : Handle}

/-- Where a context is alive, the driver has been started. -/
theorem Integrity.initialized (hi : Integrity s) {x : Context} (hc : s.contexts.get? c = some x) :
    s.initialized = true := by
  cases hup : s.initialized with
  | true => rfl
  | false =>
    have hm : c ∈ s.contexts.keys := Table.mem_keys.2 ⟨x, hc⟩
    rw [(hi.blank hup).contexts] at hm
    cases hm

theorem Open.top (h : Open t base s (c :: opened)) : s.top t = some c := by
  rw [State.top, h.stack]
  rfl

/-- The innermost context is current. -/
theorem Open.current (hi : Integrity s) (h : Open t base s (c :: opened)) : s.current t = .ok c := by
  obtain ⟨d, hc⟩ := h.alive c List.mem_cons_self
  exact current_eq_ok_iff.2 ⟨hi.initialized hc, h.top, Table.mem_keys.2 ⟨_, hc⟩⟩

theorem Open.create {files : FileTree} {flags : Nat} {d : Device} (hi : Integrity s)
    (h : Open t base s opened) (hr : s.reply ⟨t, files, .createContext flags d⟩ = .ok c) :
    Open t base (s.after ⟨t, files, .createContext flags d⟩) (c :: opened) := by
  obtain ⟨s', hop, hafter⟩ := exists_of_reply hr
  have hafter : s.after ⟨t, files, .createContext flags d⟩ = s' := hafter
  rw [hafter]
  have hstack := stackOf_createContext hop
  obtain ⟨up, known, -, rfl, rfl⟩ := createContext_eq_ok_iff.1 hop
  have fresh : ∀ c ∈ opened, c ≠ s.lastHandle + handleStep := by
    intro c hc
    obtain ⟨d', hd'⟩ := h.alive c hc
    exact hi.ne_next (k := .context) (Table.mem_keys.2 ⟨_, hd'⟩)
  refine ⟨hstack.trans (congrArg _ h.stack), List.nodup_cons.2 ⟨fun hm => fresh _ hm rfl, h.nodup⟩,
    fun c hc => ?_⟩
  rcases List.mem_cons.1 hc with rfl | hc
  · exact ⟨d, Table.get?_insert_self ..⟩
  · obtain ⟨d', hd'⟩ := h.alive c hc
    exact ⟨d', (Table.get?_insert_of_ne (fresh c hc) _).trans hd'⟩

/-- The innermost context can be destroyed. -/
theorem Open.reply_destroy (hi : Integrity s) (h : Open t base s (c :: opened)) (files : FileTree) :
    s.reply ⟨t, files, .destroyContext c⟩ = .ok () := by
  obtain ⟨d, hc⟩ := h.alive c List.mem_cons_self
  have hop : s.destroyContext t c = (.ok (), _) :=
    destroyContext_eq_ok_iff.2 ⟨hi.initialized hc, ⟨d, hc⟩, rfl⟩
  exact congrArg Prod.fst hop

theorem Open.destroy (hi : Integrity s) (h : Open t base s (c :: opened)) (files : FileTree) :
    Open t base (s.after ⟨t, files, .destroyContext c⟩) opened := by
  obtain ⟨hc, hn⟩ := List.nodup_cons.1 h.nodup
  refine ⟨?_, hn, fun c' hc' => ?_⟩
  · rw [stackOf_after, success?, if_pos rfl, h.reply_destroy hi files, h.stack]
    exact if_pos rfl
  · obtain ⟨d, hd⟩ := h.alive c' (List.mem_cons_of_mem _ hc')
    refine ⟨d, (change_after s ⟨t, files, .destroyContext c⟩).contexts_get? hi hd fun he => ?_⟩
    cases he
    exact hc hc'

theorem Open.other {e : Event} (hi : Integrity s) (h : Open t base s opened)
    (own : e.thread = t → e.call.movesStack = false)
    (foreign : e.thread ≠ t → ∀ c ∈ opened, e.call ≠ .destroyContext c) :
    Open t base (s.after e) opened := by
  have moved : t ≠ e.thread ∨ e.call.movesStack = false :=
    (Decidable.em (e.thread = t)).elim (fun ht => Or.inr (own ht)) fun ht => Or.inl (Ne.symm ht)
  refine ⟨((change_after s e).stackOf_eq moved).trans h.stack, h.nodup, fun c hc => ?_⟩
  obtain ⟨d, hd⟩ := h.alive c hc
  refine ⟨d, (change_after s e).contexts_get? hi hd fun he => ?_⟩
  by_cases ht : e.thread = t
  · have := own ht
    rw [he] at this
    cases this
  · exact foreign ht c hc he

/-- Every point of a nested run. -/
theorem Nesting.open (h : Nesting t s es opened) (hi : Integrity s) :
    Open t (s.stackOf t) (s.run es) opened := by
  induction h with
  | start => exact ⟨rfl, List.nodup_nil, fun _ hc => absurd hc List.not_mem_nil⟩
  | create _ created ih =>
    rw [run_concat]
    exact ih.create (hi.run _) created
  | destroy _ ih =>
    rw [run_concat]
    exact ih.destroy (hi.run _) _
  | other _ own foreign ih =>
    rw [run_concat]
    exact ih.other (hi.run _) own foreign

/-- **The discipline of the stacks.** After any run of any threads, the stack of a thread is what its own
successful calls make of the empty stack. And if from there on the thread creates and destroys contexts
in a nested way, then it has its old stack again at the end; each destruction succeeds; and at every
point in between, the contexts that are open lie on top of the old stack, and the innermost of them is
current and alive. -/
theorem stack_discipline (devices : Int) (capability : Int × Int) (es : List Event)
    (t : ThreadId) :
    let s₀ := fresh devices capability
    let s := s₀.run es
    s.stackOf t = (s₀.successes t es).foldl (fun stack x => x.restack stack) [] ∧
    ∀ nested, Nesting t s nested [] →
      (s.run nested).stackOf t = s.stackOf t ∧
      ∀ before after, nested = before ++ after →
        (∃ opened, Nesting t s before opened ∧ (s.run before).stackOf t = opened ++ s.stackOf t ∧
          ∀ c ∈ opened.head?, (s.run before).current t = .ok c ∧
            (s.run before).currentContext t = .ok c) ∧
        ∀ files c rest, after = ⟨t, files, .destroyContext c⟩ :: rest →
          (s.run before).reply ⟨t, files, .destroyContext c⟩ = .ok () := by
  intro s₀ s
  have hi : Integrity s := (integrity_fresh devices capability).run es
  refine ⟨stackOf_run s₀ t es, fun nested hn => ⟨(hn.open hi).stack, ?_⟩⟩
  rintro before after rfl
  refine ⟨?_, ?_⟩
  · obtain ⟨opened, h⟩ := hn.of_append
    refine ⟨opened, h, (h.open hi).stack, fun c hc => ?_⟩
    cases opened with
    | nil => cases hc
    | cons c' rest =>
      cases hc
      have hcur := (h.open hi).current (hi.run before)
      obtain ⟨up, top, -⟩ := current_eq_ok_iff.1 hcur
      exact ⟨hcur, currentContext_eq_ok_iff.2 ⟨up, by rw [top]; rfl⟩⟩
  · rintro files c rest rfl
    have hn' : Nesting t s ((before ++ [⟨t, files, .destroyContext c⟩]) ++ rest) [] := by
      simpa using hn
    obtain ⟨opened, h⟩ := hn'.of_append
    exact (h.of_concat_destroy.open hi).reply_destroy (hi.run before) files

/-- One context inside another, while a second thread starts and destroys one of its own. -/
theorem stack_discipline_two_deep :
    let s := (fresh 1 (7, 0)).run [⟨0, {}, .init 0⟩]
    let nested : List Event := [⟨0, {}, .createContext 0 ⟨0⟩⟩, ⟨1, {}, .createContext 0 ⟨0⟩⟩,
      ⟨0, {}, .createContext 0 ⟨0⟩⟩, ⟨1, {}, .destroyContext 0x1200⟩,
      ⟨0, {}, .destroyContext 0x1300⟩, ⟨0, {}, .destroyContext 0x1100⟩]
    Nesting 0 s nested [] ∧ (s.run nested).stackOf 0 = s.stackOf 0 ∧
      (s.run (nested.take 5)).reply ⟨0, {}, .destroyContext 0x1100⟩ = .ok () := by
  intro s nested
  have outer : Nesting 0 s (nested.take 1) [0x1100] := .create .start rfl
  have between : Nesting 0 s (nested.take 2) [0x1100] :=
    .other outer (fun h => by cases h) fun _ c _ h => by cases h
  have inner : Nesting 0 s (nested.take 3) [0x1300, 0x1100] := .create between rfl
  have foreign : Nesting 0 s (nested.take 4) [0x1300, 0x1100] :=
    .other inner (fun h => by cases h) fun _ c hc h => by
      cases h
      simp at hc
  have outerOnly : Nesting 0 s (nested.take 5) [0x1100] := .destroy foreign
  have all : Nesting 0 s (nested.take 6) [] := .destroy outerOnly
  obtain ⟨back, points⟩ := (stack_discipline 1 (7, 0) [⟨0, {}, .init 0⟩] 0).2 nested all
  exact ⟨all, by simpa only [s] using back,
    (points (nested.take 5) (nested.drop 5) rfl).2 {} 0x1100 [] rfl⟩

end GpuDriver.InProcess
