import Mathlib.Data.List.Induction
import GpuDriver.Proofs.InProcess.Failure
import GpuDriver.Proofs.InProcess.Link

/-!
# Link sessions as folds over their history

What a link session holds is what it has accepted (`State.acceptedBy`), in order, whatever other sessions
are used in between and by whatever threads: by what one event does to it (`links_after`), and by induction
for a run (`links_run`). So what it is joined to depends on the accepted images alone, and is given in terms
of them (`completeLink_acceptedBy`).
-/

namespace GpuDriver.InProcess

open State

/-! ### What a session has accepted -/

/-- An image as it is handed to a link session. -/
structure Offer where
  /-- What it is said to be. -/
  kind : ImageKind
  /-- Its octets. -/
  data : Bytes
  /-- What it is called. -/
  name : Bytes

namespace Offer

/-- What a session keeps of an image that holds a text. -/
def input? (o : Offer) : Option LinkInput :=
  (imageText? o.data).map fun text => ⟨o.kind, Utf8.decodeLossy o.name, text⟩

/-- The kernels of the text that an image holds. -/
def entries (o : Offer) : List String :=
  ((imageText? o.data).map fun text => (Ptx.symbols text).entries).getD []

/-- The octets that an image adds to what it is joined into: its own without the NULs at the end, and a
line feed. -/
def line (o : Offer) : Bytes := withoutNuls o.data ++ [0x0a]

end Offer

/-- The image that an event adds to a session, if it adds one. -/
def State.accepted (s : State) (l : Handle) (e : Event) : List Offer :=
  match e.call with
  | .addLinkInput l' kind data name =>
    if l' = l ∧ (s.addLinkInput l' kind data name).1.isOk then [⟨kind, data, name⟩] else []
  | _ => []

/-- The images that a session has accepted in a run, in order. -/
def State.acceptedBy (s : State) (l : Handle) : List Event → List Offer
  | [] => []
  | e :: es => s.accepted l e ++ (s.after e).acceptedBy l es

theorem acceptedBy_append (s : State) (l : Handle) (es es' : List Event) :
    s.acceptedBy l (es ++ es') = s.acceptedBy l es ++ (s.run es).acceptedBy l es' := by
  induction es generalizing s with
  | nil => rfl
  | cons e es ih => rw [List.cons_append, acceptedBy, ih, acceptedBy, List.append_assoc, run_cons]

theorem acceptedBy_concat (s : State) (l : Handle) (es : List Event) (e : Event) :
    s.acceptedBy l (es ++ [e]) = s.acceptedBy l es ++ (s.run es).accepted l e := by
  rw [acceptedBy_append, acceptedBy, acceptedBy, List.append_nil]

section Step

variable {s s' : State} {l : Handle} {t : ThreadId} {c : Driver.Call}

theorem accepted_of_other {e : Event}
    (other : ∀ kind data name, e.call ≠ .addLinkInput l kind data name) : s.accepted l e = [] := by
  obtain ⟨t, files, c⟩ := e
  cases c with
  | addLinkInput l' kind data name =>
    unfold State.accepted
    apply if_neg
    rintro ⟨rfl, -⟩
    exact other kind data name rfl
  | _ => rfl

/-- A call that adds nothing to a session leaves what it holds, unless it begins the session or ends
it. -/
theorem Change.links_get? (h : Change t s c s')
    (other : ∀ kind data name, c ≠ .addLinkInput l kind data name) :
    s'.links.get? l = s.links.get? l ∨
      (l = s.lastHandle + handleStep ∧ s'.links.get? l = some []) ∨
        (c = .destroyLink l ∧ s'.links.get? l = none) := by
  cases h with
  | beginLink =>
    rcases Decidable.em (l = s.lastHandle + handleStep) with rfl | old
    · exact Or.inr (Or.inl ⟨rfl, Table.get?_insert_self ..⟩)
    · exact Or.inl (Table.get?_insert_of_ne old _)
  | @extendLink l' kind data name =>
    have apart : l ≠ l' := by
      rintro rfl
      exact other kind data name rfl
    exact Or.inl (Table.get?_insert_of_ne apart _)
  | @endLink l' =>
    rcases Decidable.em (l = l') with rfl | apart
    · refine Or.inr (Or.inr ⟨rfl, ?_⟩)
      rw [Table.get?_erase, if_pos rfl]
    · refine Or.inl ?_
      rw [Table.get?_erase, if_neg apart]
  | _ => exact Or.inl rfl

/-- A session that is handed an image accepts it and holds it then, or stays as it was. -/
theorem addLinkInput_cases (s : State) (l : Handle) (t : ThreadId) (files : FileTree)
    (kind : ImageKind) (data name : Bytes) :
    let e : Event := ⟨t, files, .addLinkInput l kind data name⟩
    (∃ inputs input, s.links.get? l = some inputs ∧ s.accepted l e = [⟨kind, data, name⟩] ∧
      Offer.input? ⟨kind, data, name⟩ = some input ∧
        (s.after e).links.get? l = some (inputs ++ [input])) ∨
      s.accepted l e = [] ∧ s.after e = s := by
  intro e
  rcases answered : s.addLinkInput l kind data name with ⟨status | u, s'⟩
  · have refused : s.reply e = .error status := congrArg Prod.fst answered
    refine Or.inr ⟨?_, after_eq_self_of_failed refused rfl rfl⟩
    simp [State.accepted, e, answered, Except.isOk, Except.toBool]
  · obtain ⟨-, inputs, text, alive, -, read, -, rfl⟩ := addLinkInput_eq_ok_iff.1 answered
    refine Or.inl ⟨inputs, ⟨kind, Utf8.decodeLossy name, text⟩, alive, ?_, ?_, ?_⟩
    · simp [State.accepted, e, answered, Except.isOk, Except.toBool]
    · rw [Offer.input?, read]
      rfl
    · rw [show s.after e = _ from congrArg Prod.snd answered]
      exact Table.get?_insert_self ..

/-- What an event does to what a session holds: one accepted image more, or nothing is accepted and the
session stays as it is, begins or ends. -/
theorem links_after (s : State) (l : Handle) (e : Event) :
    (∃ inputs o input, s.links.get? l = some inputs ∧ s.accepted l e = [o] ∧ o.input? = some input ∧
        (s.after e).links.get? l = some (inputs ++ [input])) ∨
      s.accepted l e = [] ∧ ((s.after e).links.get? l = s.links.get? l ∨
        (l = s.lastHandle + handleStep ∧ (s.after e).links.get? l = some []) ∨
          (s.after e).links.get? l = none) := by
  by_cases adds : ∃ kind data name, e.call = .addLinkInput l kind data name
  · obtain ⟨kind, data, name, called⟩ := adds
    obtain ⟨t, files, c⟩ := e
    subst called
    obtain ⟨inputs, input, alive, accepted, kept, left⟩ | ⟨none, same⟩ :=
      addLinkInput_cases s l t files kind data name
    · exact Or.inl ⟨inputs, _, input, alive, accepted, kept, left⟩
    · exact Or.inr ⟨none, Or.inl (by rw [same])⟩
  · have other : ∀ kind data name, e.call ≠ .addLinkInput l kind data name :=
      fun kind data name called => adds ⟨kind, data, name, called⟩
    refine Or.inr ⟨accepted_of_other other, ?_⟩
    obtain same | begun | ⟨-, ended⟩ := (change_after s e).links_get? other
    · exact Or.inl same
    · exact Or.inr (Or.inl begun)
    · exact Or.inr (Or.inr ended)

end Step

/-! ### Whole runs -/

/-- A handle that was not given out yet has accepted nothing. -/
theorem acceptedBy_of_new (devices : Int) (capability : Int × Int) (es : List Event) {l : Handle}
    (new : ((fresh devices capability).run es).lastHandle < l) :
    (fresh devices capability).acceptedBy l es = [] := by
  induction es using List.reverseRecOn with
  | nil => rfl
  | append_singleton es e ih =>
    rw [run_concat] at new
    have up := (change_after ((fresh devices capability).run es) e).lastHandle_le
    have below := Nat.lt_of_le_of_lt up new
    rw [acceptedBy_concat, ih below, List.nil_append]
    obtain ⟨inputs, -, -, alive, -⟩ | ⟨none, -⟩ := links_after ((fresh devices capability).run es) l e
    · have given := ((integrity_run devices capability es).key_bounds (k := .link)
        (Table.mem_keys.2 ⟨_, alive⟩)).2
      exact absurd below (Nat.not_lt.2 given)
    · exact none

/-- **A session holds what it has accepted**, in order. -/
theorem links_run (devices : Int) (capability : Int × Int) (es : List Event) {l : Handle}
    {inputs : List LinkInput}
    (alive : ((fresh devices capability).run es).links.get? l = some inputs) :
    ((fresh devices capability).acceptedBy l es).map Offer.input? = inputs.map some := by
  induction es using List.reverseRecOn generalizing inputs with
  | nil => cases alive
  | append_singleton es e ih =>
    rw [run_concat] at alive
    rw [acceptedBy_concat]
    obtain ⟨before, o, input, held, accepted, kept, left⟩ | ⟨none, same | ⟨rfl, begun⟩ | ended⟩ :=
      links_after ((fresh devices capability).run es) l e
    · obtain rfl : before ++ [input] = inputs := Option.some.inj (left.symm.trans alive)
      rw [accepted, List.map_append, ih held, List.map_singleton, kept, List.map_append,
        List.map_singleton]
    · rw [none, List.append_nil, ih (same.symm.trans alive)]
    · -- the handle is new, so nothing was accepted under it before
      obtain rfl : [] = inputs := Option.some.inj (begun.symm.trans alive)
      have pos := handleStep_pos
      rw [none, acceptedBy_of_new devices capability es (by lia)]
      rfl
    · rw [ended] at alive
      cases alive

/-! ### What a session is joined to -/

section Fold

variable {offers : List Offer} {inputs : List LinkInput}
  (kept : offers.map Offer.input? = inputs.map some)

include kept

theorem linkedEntries_of_offers : linkedEntries inputs = offers.flatMap Offer.entries := by
  induction offers generalizing inputs with
  | nil =>
    obtain rfl : inputs = [] := by simpa using kept.symm
    rfl
  | cons o offers ih =>
    obtain _ | ⟨input, rest⟩ := inputs
    · cases kept
    obtain ⟨first, others⟩ := List.cons.inj kept
    obtain ⟨text, read, rfl⟩ := Option.map_eq_some_iff.1 first
    rw [List.flatMap_cons, ← ih others, Offer.entries, read]
    rfl

theorem encode_linkedText_of_offers :
    Utf8.encode (linkedText inputs) = offers.flatMap Offer.line := by
  induction offers generalizing inputs with
  | nil =>
    obtain rfl : inputs = [] := by simpa using kept.symm
    rfl
  | cons o offers ih =>
    obtain _ | ⟨input, rest⟩ := inputs
    · cases kept
    obtain ⟨first, others⟩ := List.cons.inj kept
    obtain ⟨text, read, rfl⟩ := Option.map_eq_some_iff.1 first
    rw [List.flatMap_cons, ← ih others, linkedText_cons, Utf8.encode_append, Utf8.encode_append,
      encode_of_imageText? read]
    rfl

end Fold

/-- **What a session is joined to** in terms of the images that it has accepted. -/
theorem completeLink_acceptedBy (devices : Int) (capability : Int × Int) (es : List Event)
    {l : Handle} (alive : l ∈ ((fresh devices capability).run es).links.keys) :
    let offers := (fresh devices capability).acceptedBy l es
    ((fresh devices capability).run es).completeLink l =
      if offers = [] then .error .invalidValue
      else if (offers.flatMap Offer.entries).Nodup then .ok (offers.flatMap Offer.line)
      else .error .invalidImage := by
  intro offers
  obtain ⟨inputs, held⟩ := Table.mem_keys.1 alive
  have kept : offers.map Offer.input? = inputs.map some := links_run devices capability es held
  have up : ((fresh devices capability).run es).initialized = true := by
    rw [← Bool.not_eq_false]
    intro down
    rw [((integrity_run devices capability es).blank down).links] at alive
    cases alive
  have none : offers = [] ↔ inputs.isEmpty := by
    rw [← List.map_eq_nil_iff (f := Offer.input?), kept, List.map_eq_nil_iff, List.isEmpty_iff]
  rw [completeLink, link_eq_ok_iff.2 ⟨up, held⟩, ← linkedEntries_of_offers kept,
    ← encode_linkedText_of_offers kept]
  simp only [none]
  rfl

end GpuDriver.InProcess
