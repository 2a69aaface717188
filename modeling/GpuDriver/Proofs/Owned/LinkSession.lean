import Mathlib.Logic.Relation
import GpuDriver.Owned.LinkSession
import GpuDriver.Proofs.InProcess.LinkHistory
import GpuDriver.Proofs.Owned.Success

/-!
# Link sessions and their count

A link session that is only used through its own methods counts what the driver holds for it, whatever
else is asked of the driver in between: one step of its use keeps this (`LinkSession.Counts.step`), and so
does its whole use. What it is joined to is told by what it has accepted (`link_sessions_fold`).
-/

namespace GpuDriver

open Owned InProcess InProcess.State Relation

namespace Owned.LinkSession

variable {ν : Type} {system : System} {w w' : World (Bench ν)} {l l' : LinkSession} {t : ThreadId}

/-! ### Methods -/

/-- Adding an image fails and leaves the world as it was, or the driver holds one input more, and the
session counts one more. -/
theorem add_cases (l : LinkSession) (t : ThreadId) (kind : ImageKind) (data : Bytes) (name : String)
    (w : World (Bench ν)) :
    (∃ e, l.add (Platform.inProcess system) t kind data name w = (.error e, w)) ∨
      ∃ inputs input links, w.native.driver.links.get? l.handle = some inputs ∧
        links.get? l.handle = some (inputs ++ [input]) ∧
          l.add (Platform.inProcess system) t kind data name w =
            (.ok { l with inputCount := l.inputCount + 1 },
              w.withDriver { w.native.driver with links }) := by
  rcases Decidable.em ('\x00' ∈ name.toList) with bad | clean
  · have refused : l.add (Platform.inProcess system) t kind data name w =
        (.error (.invalidName name), w) :=
      Act.bind_of_error (Act.ofExcept_of_error (nameOctets_of_mem bad))
    exact Or.inl ⟨_, refused⟩
  rcases answered : w.native.driver.addLinkInput l.handle kind (handedOver kind data)
      (Utf8.encode name) with ⟨status | u, s'⟩
  · exact Or.inl ⟨_, add_of_addLinkInput_error clean answered⟩
  · obtain ⟨-, inputs, text, alive, -, -, -, rfl⟩ := addLinkInput_eq_ok_iff.1 answered
    exact Or.inr ⟨inputs, _, _, alive, Table.get?_insert_self .., add_of_addLinkInput clean answered⟩

/-- Joining changes nothing. -/
theorem snd_complete (l : LinkSession) (t : ThreadId) (w : World (Bench ν)) :
    (l.complete (Platform.inProcess system) t w).2 = w := by
  unfold complete
  cases answered : w.native.driver.completeLink l.handle with
  | error status =>
    have refused : (Platform.inProcess system).call t (.completeLink l.handle) w =
        (.error (.ofStatus status), w) :=
      Platform.call_of_step_error (congrArg w.native.driver.asked answered)
    rw [refused]
  | ok image =>
    have called : (Platform.inProcess system).call t (.completeLink l.handle) w = (.ok image, w) :=
      Platform.call_of_step (congrArg w.native.driver.asked answered)
    rw [called]

/-! ### A session in use -/

/-- One step in the use of a session through its own methods: an image is added to it or refused, or it is
joined. Or any other call is made of the driver, by any thread, that neither adds to the session nor ends
it. -/
inductive Step (p : Platform (Bench ν)) :
    World (Bench ν) × LinkSession → World (Bench ν) × LinkSession → Prop
  | added {t : ThreadId} {kind : ImageKind} {data : Bytes} {name : String} {w w' : World (Bench ν)}
      {l l' : LinkSession} (h : l.add p t kind data name w = (.ok l', w')) : Step p (w, l) (w', l')
  | refused {t : ThreadId} {kind : ImageKind} {data : Bytes} {name : String} {w w' : World (Bench ν)}
      {l : LinkSession} {e : Error} (h : l.add p t kind data name w = (.error e, w')) :
      Step p (w, l) (w', l)
  | joined {t : ThreadId} {w w' : World (Bench ν)} {l : LinkSession} {answer : Except CallError Bytes}
      (h : l.complete p t w = (answer, w')) : Step p (w, l) (w', l)
  | elsewhere {w w' : World (Bench ν)} {l : LinkSession} {e : Event}
      (adds : ∀ kind data name, e.call ≠ .addLinkInput l.handle kind data name)
      (ends : e.call ≠ .destroyLink l.handle)
      (h : w'.native.driver = w.native.driver.after e) : Step p (w, l) (w', l)

/-- The driver knows the session's handle and holds as many inputs for it as it counts. -/
structure Counts (s : State) (l : LinkSession) : Prop where
  known : l.handle ≤ s.lastHandle
  counted : ∃ inputs, s.links.get? l.handle = some inputs ∧ inputs.length = l.inputCount

theorem Counts.step (h : Counts w.native.driver l)
    (hs : Step (Platform.inProcess system) (w, l) (w', l')) : Counts w'.native.driver l' := by
  obtain ⟨inputs, held, length⟩ := h.counted
  cases hs with
  | @added t kind data name _ _ _ _ done =>
    obtain ⟨e, failed⟩ | ⟨before, input, links, alive, after, ok⟩ := add_cases l t kind data name w
    · rw [failed] at done
      cases done
    · rw [ok] at done
      cases done
      obtain rfl : inputs = before := Option.some.inj (held.symm.trans alive)
      refine ⟨h.known, inputs ++ [input], after, ?_⟩
      rw [List.length_append, List.length_singleton, length]
  | @refused t kind data name _ _ _ _ done =>
    obtain ⟨e, failed⟩ | ⟨before, input, links, -, -, ok⟩ := add_cases l t kind data name w
    · rw [failed] at done
      cases done
      exact h
    · rw [ok] at done
      cases done
  | @joined t _ _ _ _ done =>
    obtain rfl : w' = w := (congrArg Prod.snd done).symm.trans (snd_complete l t w)
    exact h
  | @elsewhere _ _ _ e adds ends left =>
    -- a session that begins elsewhere has a handle that the driver did not know yet
    have change := change_after w.native.driver e
    rw [left]
    refine ⟨Nat.le_trans h.known change.lastHandle_le, inputs, ?_, length⟩
    obtain same | ⟨new, -⟩ | ⟨ended, -⟩ := change.links_get? adds
    · exact same.trans held
    · have known := h.known
      have pos := handleStep_pos
      lia
    · exact absurd ended ends

theorem Counts.used {before after : World (Bench ν) × LinkSession}
    (h : Counts before.1.native.driver before.2)
    (used : ReflTransGen (Step (Platform.inProcess system)) before after) :
    Counts after.1.native.driver after.2 := by
  induction used with
  | refl => exact h
  | tail _ step counts => exact counts.step step

theorem counts_create (created : create (Platform.inProcess system) t w = (.ok l, w')) :
    Counts w'.native.driver l := by
  unfold create at created
  rcases answered : w.native.driver.createLink t with ⟨status | m, s'⟩
  · have refused : (Platform.inProcess system).call t .createLink w =
        (.error (.ofStatus status), w.withDriver s') :=
      Platform.call_of_step_error (c := .createLink) answered
    rw [Act.bind_of_error refused] at created
    cases created
  · obtain ⟨c, current⟩ := (createLink_eq_ok_iff.1 answered).1
    have begun : create (Platform.inProcess system) t w = _ := create_of_current current
    cases begun.symm.trans created
    exact ⟨Nat.le_refl _, [], Table.get?_insert_self .., rfl⟩

end Owned.LinkSession

/-- **Link sessions fold what they have accepted.** In the books of any run, with any number of sessions
and threads, a live session is joined to the lines of the images that it has accepted, in order; it
refuses to be joined if there are none or if they define a kernel twice. Joining changes nothing, and so
does adding an image that is refused. A session that is only used through its own methods counts what the
driver holds for it. -/
theorem link_sessions_fold (devices : Int) (capability : Int × Int) (es : List Event) :
    let s₀ := fresh devices capability
    let s := s₀.run es
    (∀ l ∈ s.links.keys, ∀ t files,
      let offers := s₀.acceptedBy l es
      let joining : Event := ⟨t, files, .completeLink l⟩
      (s.reply joining =
        if offers = [] then .error .invalidValue
        else if (offers.flatMap Offer.entries).Nodup then .ok (offers.flatMap Offer.line)
        else .error .invalidImage) ∧
      s.reply joining ≠ .ok [] ∧ s.after joining = s) ∧
    (∀ t files l kind data name status,
      s.reply ⟨t, files, .addLinkInput l kind data name⟩ = .error status →
        s.after ⟨t, files, .addLinkInput l kind data name⟩ = s) ∧
    ∀ (ν : Type) (system : System) (w w₁ w₂ : World (Bench ν)) (t : ThreadId) (l l₂ : LinkSession),
      LinkSession.create (Platform.inProcess system) t w = (.ok l, w₁) →
        ReflTransGen (LinkSession.Step (Platform.inProcess system)) (w₁, l) (w₂, l₂) →
          ∃ inputs, w₂.native.driver.links.get? l₂.handle = some inputs ∧
            inputs.length = l₂.inputCount := by
  intro s₀ s
  refine ⟨?_, ?_, ?_⟩
  · intro l alive t files offers joining
    have joined : s.reply joining = _ := completeLink_acceptedBy devices capability es alive
    refine ⟨joined, ?_, rfl⟩
    rw [joined]
    split
    · exact nofun
    · rename_i given
      split
      · obtain ⟨o, rest, some⟩ := List.exists_cons_of_ne_nil given
        rw [show s₀.acceptedBy l es = o :: rest from some]
        simp [Offer.line]
      · exact nofun
  · intro t files l kind data name status refused
    exact after_eq_self_of_failed refused rfl rfl
  · intro ν system w w₁ w₂ t l l₂ created used
    exact ((LinkSession.counts_create created).used used).counted

/-! ### Two sessions -/

/-- The module of one kernel, as it is handed to a session. -/
def kernelOffer : Offer := ⟨.ptx, Utf8.encode (Ptx.kernelModule 0), []⟩

/-- It is handed to a session. -/
def offerKernel (l : Handle) : Event := ⟨0, {}, .addLinkInput l .ptx (Utf8.encode (Ptx.kernelModule 0)) []⟩

/-- Two threads begin link sessions in one context. -/
def sessionsRun : List Event :=
  contextRun ++ [⟨0, {}, .createLink⟩, ⟨1, {}, .setCurrentContext 0x1100⟩, ⟨1, {}, .createLink⟩]

/-- The first session is offered the kernel twice, and the second once in between. -/
def offersRun : List Event :=
  sessionsRun ++ [offerKernel 0x1200, offerKernel 0x1300, offerKernel 0x1200]

theorem offerKernel_accepted {s : State} {l : Handle} (inputs : List LinkInput)
    (up : s.initialized = true) (alive : s.links.get? l = some inputs) :
    s.accepted l (offerKernel l) = [kernelOffer] ∧ s.after (offerKernel l) = { s with
      links := s.links.insert l (inputs ++ [⟨.ptx, "", Ptx.kernelModule 0⟩]) } := by
  have added := addLinkInput_of_isModule up alive imageText?_kernelModule (Ptx.isModule_kernelModule 0)
    .ptx []
  have unnamed : Utf8.decodeLossy [] = "" := Utf8.decodeLossy_encode ""
  rw [unnamed] at added
  constructor
  · simp [State.accepted, offerKernel, kernelOffer, added, Except.isOk, Except.toBool]
  · exact congrArg Prod.snd added

theorem run_offersRun :
    let s := (fresh 1 (7, 0)).run sessionsRun
    let input : LinkInput := ⟨.ptx, "", Ptx.kernelModule 0⟩
    (fresh 1 (7, 0)).run offersRun = { s with
        links := ((s.links.insert 0x1200 [input]).insert 0x1300 [input]).insert 0x1200
          [input, input] } ∧
      (fresh 1 (7, 0)).acceptedBy 0x1200 offersRun = [kernelOffer, kernelOffer] ∧
      (fresh 1 (7, 0)).acceptedBy 0x1300 offersRun = [kernelOffer] := by
  intro s input
  let s₁ : State := { s with links := s.links.insert 0x1200 [input] }
  let s₂ : State := { s₁ with links := s₁.links.insert 0x1300 [input] }
  obtain ⟨accepted, first⟩ : s.accepted 0x1200 _ = _ ∧ s.after (offerKernel 0x1200) = s₁ :=
    offerKernel_accepted [] rfl rfl
  obtain ⟨accepted₁, second⟩ : s₁.accepted 0x1300 _ = _ ∧ s₁.after (offerKernel 0x1300) = s₂ :=
    offerKernel_accepted [] rfl rfl
  obtain ⟨accepted₂, third⟩ := offerKernel_accepted (s := s₂) (l := 0x1200) [input] rfl rfl
  have before (l : Handle) : (fresh 1 (7, 0)).acceptedBy l sessionsRun = [] := rfl
  have elsewhere (s' : State) {l l' : Handle} (apart : l' ≠ l) : s'.accepted l (offerKernel l') = [] :=
    if_neg fun h => apart h.1
  refine ⟨?_, ?_, ?_⟩
  · rw [offersRun, run_append, run_cons, run_cons, run_cons, run_nil, first, second, third]
    rfl
  · rw [offersRun, acceptedBy_append, before, acceptedBy, acceptedBy, acceptedBy, acceptedBy, accepted,
      first, elsewhere s₁ (by decide), second, accepted₂]
    rfl
  · rw [offersRun, acceptedBy_append, before, acceptedBy, acceptedBy, acceptedBy, acceptedBy, first,
      elsewhere s (by decide), accepted₁, second, elsewhere s₂ (by decide)]
    rfl

/-- The first session cannot be joined, the second can, and a third begins and counts what it is given. -/
theorem link_sessions_fold_two :
    let s := (fresh 1 (7, 0)).run offersRun
    let joining (l : Handle) : Event := ⟨1, {}, .completeLink l⟩
    let nothing : Event := ⟨1, {}, .addLinkInput 0x1300 .ptx [] []⟩
    let p : Platform (Bench Unit) := Platform.inProcess .bare
    let w : World (Bench Unit) := { native := { driver := s, vendor := () } }
    (s.reply (joining 0x1200) = .error .invalidImage ∧
      s.reply (joining 0x1300) = .ok (Utf8.encode (Ptx.kernelModule 0) ++ [0x0a]) ∧
        s.after (joining 0x1300) = s) ∧
    (s.reply nothing = .error .invalidValue ∧ s.after nothing = s) ∧
    ∃ w₁ w₂, LinkSession.create p 0 w = (.ok ⟨0x1400, 0⟩, w₁) ∧
      (⟨0x1400, 0⟩ : LinkSession).addPtx p 1 (Ptx.kernelModule 0) "k" w₁ = (.ok ⟨0x1400, 1⟩, w₂) ∧
        ∃ inputs, w₂.native.driver.links.get? 0x1400 = some inputs ∧ inputs.length = 1 := by
  intro s joining nothing p w
  obtain ⟨joins, refuses, counts⟩ := link_sessions_fold 1 (7, 0) offersRun
  obtain ⟨books, first, second⟩ := run_offersRun
  have books : s = _ := books
  have entries : kernelOffer.entries = ["k"] := by
    rw [Offer.entries, kernelOffer, imageText?_kernelModule, Option.map_some, Ptx.symbols_kernelModule]
    rfl
  have line : kernelOffer.line = Utf8.encode (Ptx.kernelModule 0) ++ [0x0a] := by
    rw [Offer.line, kernelOffer, ← encode_of_imageText? imageText?_kernelModule]
  have alive (l : Handle) (h : l = 0x1200 ∨ l = 0x1300) : l ∈ s.links.keys := by
    rw [books]
    obtain rfl | rfl := h
    · exact Table.mem_keys.2 ⟨_, Table.get?_insert_self ..⟩
    · exact Table.mem_keys.2 ⟨_, rfl⟩
  refine ⟨⟨?_, ?_, ?_⟩, ?_, ?_⟩
  · obtain ⟨refused, -⟩ := joins 0x1200 (alive _ (Or.inl rfl)) 1 {}
    rw [first] at refused
    simpa [entries] using refused
  · obtain ⟨joined, -⟩ := joins 0x1300 (alive _ (Or.inr rfl)) 1 {}
    rw [second] at joined
    simpa [entries, line] using joined
  · exact (joins 0x1300 (alive _ (Or.inr rfl)) 1 {}).2.2
  · have refused : s.reply nothing = .error .invalidValue := by
      rw [books]
      rfl
    exact ⟨refused, refuses _ _ _ _ _ _ _ refused⟩
  · have current : w.native.driver.current 0 = .ok 0x1100 := by
      show s.current 0 = _
      rw [books]
      rfl
    have last : w.native.driver.lastHandle + handleStep = 0x1400 := by
      show s.lastHandle + _ = _
      rw [books]
      rfl
    have created : LinkSession.create p 0 w = _ := LinkSession.create_of_current current
    rw [last] at created
    let w₁ := w.withDriver { s with lastHandle := 0x1400, links := s.links.insert 0x1400 [] }
    have up : w₁.native.driver.initialized = true := (current_eq_ok_iff.1 current).1
    have begun : w₁.native.driver.links.get? 0x1400 = some [] := Table.get?_insert_self ..
    have added : (⟨0x1400, 0⟩ : LinkSession).addPtx p 1 (Ptx.kernelModule 0) "k" w₁ = _ :=
      LinkSession.addPtx_of_isModule up begun imageText?_kernelModule (Ptx.isModule_kernelModule 0)
        (by decide)
    exact ⟨_, _, created, added, counts _ _ _ _ _ _ _ _ created (.single (.added added))⟩

end GpuDriver
