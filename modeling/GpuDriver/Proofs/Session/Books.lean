import GpuDriver.Proofs.InProcess.Failure
import GpuDriver.Proofs.InProcess.Integrity
import GpuDriver.Proofs.Session.Release
import GpuDriver.Workbench

/-!
# Owned objects account for the books of the in-process driver

In a run that works with owned objects only, what is alive in the books of the in-process driver is what
there are objects for (`Tally`), however the objects are made, shared by threads and given back. Modules
are the exception, since they go with their context and leave their object behind.
-/

namespace GpuDriver

open Owned
open Session (Object)

/-- The driver of the platform is the in-process one, with its books in `books`. -/
structure Platform.KeepsBooks {σ : Type} (p : Platform σ) (books : σ → InProcess.State) :
    Prop where
  /-- A call is answered as the in-process driver answers it. -/
  reply (t : ThreadId) (files : FileTree) (c : Driver.Call) (s : σ) :
    (p.driver t files c s).1 = (books s).reply ⟨t, files, c⟩
  /-- A call changes the books as the in-process driver changes them. -/
  after (t : ThreadId) (files : FileTree) (c : Driver.Call) (s : σ) :
    books (p.driver t files c s).2 = (books s).after ⟨t, files, c⟩
  /-- The runtime compiler leaves the books alone. -/
  nvrtc (c : Nvrtc.Call) (s : σ) : books (p.nvrtc c s).2 = books s

/-- The platform on which driver and runtime compiler stay in the process. -/
def Platform.inProcess {ν : Type} (system : System) : Platform (Bench ν) where
  toSystem := system
  driver := Bench.inProcessDriver
  nvrtc := Bench.inProcessNvrtc

theorem Platform.keepsBooks_inProcess {ν : Type} (system : System) :
    (Platform.inProcess system : Platform (Bench ν)).KeepsBooks Bench.driver :=
  ⟨fun _ _ _ _ => rfl, fun _ _ _ _ => rfl, fun _ _ => rfl⟩

namespace InProcess

open State

/-- The context is alive and not a primary one. -/
def State.created (s : State) (c : Handle) : Bool := (s.contexts.get? c).any fun x => !x.primary

/-- What is alive in the books is what there are objects for. -/
structure Tally (objects : Multiset Object) (s : State) : Prop where
  /-- A context that is alive and not a primary one has one object, and there are no others. -/
  contexts (c : Handle) : owned (.context c) objects = (s.created c).toNat
  /-- A primary context is retained by the objects for its device. -/
  retains (d : Device) : owned (.primary d) objects = s.retains d
  /-- A link session that is alive has one object, and there are no others. -/
  links (l : Handle) : owned (.link l) objects = (s.links.contains l).toNat
  /-- No two objects are for one module. -/
  modules (m : Handle) : owned (.module m) objects ≤ 1
  /-- The modules that are alive are those of the objects whose context is alive. -/
  owners (m c : Handle) : (s.modules.get? m).map (·.context) = some c ↔
    .module ⟨m, some c⟩ ∈ objects ∧ c ∈ s.contexts.keys

/-- The objects account for the books, and the books are in order. -/
structure Accounted (objects : Multiset Object) (s : State) : Prop
    extends Integrity s, Tally objects s where
  /-- The handles of modules and of their contexts were given out, by a driver that was started. -/
  given {m : Owned.Module} (h : .module m ∈ objects) :
    s.initialized = true ∧ m.handle ≤ s.lastHandle ∧ ∃ c ≤ s.lastHandle, m.context = some c

variable {objects : Multiset Object} {s s' : State} {t : ThreadId} {files : FileTree}
  {call : Driver.Call}

/-! ### What is alive in other books -/

theorem created_of_insert {c : Handle} {x : Context}
    (h : s'.contexts = s.contexts.insert c x) (c' : Handle) :
    s'.created c' = if c' = c then !x.primary else s.created c' := by
  rw [created, h, Table.get?_insert]
  split <;> rfl

theorem created_of_erase {c : Handle} (h : s'.contexts = s.contexts.erase c) (c' : Handle) :
    s'.created c' = if c' = c then false else s.created c' := by
  rw [created, h, Table.get?_erase]
  split <;> rfl

theorem created_eq_true_iff {c : Handle} :
    s.created c = true ↔ ∃ d, s.contexts.get? c = some ⟨d, false⟩ := by
  rw [created]
  rcases s.contexts.get? c with _ | ⟨d, primary⟩ <;> simp

/-- The modules that a context leaves behind belong to others. -/
theorem owner_dropContext {m c c' : Handle} :
    ((s.dropContext c).modules.get? m).map (·.context) = some c' ↔
      (s.modules.get? m).map (·.context) = some c' ∧ c' ≠ c := by
  simp only [dropContext, Table.get?_filter]
  rcases s.modules.get? m with _ | loaded
  · simp
  · by_cases hc : loaded.context = c
    · simpa [Option.filter, hc] using fun h : c = c' => h.symm
    · simpa [Option.filter, hc] using fun h : loaded.context = c' => h ▸ hc

/-- An object of a module counts for the module. -/
theorem owned_pos_of_mem {o : Object} (h : o ∈ objects) : 0 < owned o.resource objects :=
  Multiset.countP_pos.2 ⟨o, h, rfl⟩

theorem accounted_fresh (devices : Int) (capability : Int × Int) :
    Accounted 0 (fresh devices capability) where
  toIntegrity := integrity_fresh devices capability
  contexts c := rfl
  retains d := rfl
  links l := rfl
  modules m := Nat.zero_le 1
  owners m c := by simp [fresh]
  given h := by simp at h

/-- The reply to an event and the books after it, when its call succeeds. -/
theorem reply_after_of_step {c : Driver.Call} {a : c.Value} (ok : step t files c s = (.ok a, s')) :
    s.reply ⟨t, files, c⟩ = .ok a ∧ s.after ⟨t, files, c⟩ = s' :=
  ⟨congrArg Prod.fst ok, congrArg Prod.snd ok⟩

namespace Accounted

/-! ### Books that differ in nothing that is owned -/

theorem given_after (h : Accounted objects s) (hc : Change t s call s') {m : Owned.Module}
    (hm : .module m ∈ objects) :
    s'.initialized = true ∧ m.handle ≤ s'.lastHandle ∧ ∃ c ≤ s'.lastHandle, m.context = some c := by
  obtain ⟨up, hle, c, hcle, heq⟩ := h.given hm
  have last := hc.lastHandle_le
  exact ⟨hc.initialized up, hle.trans last, c, hcle.trans last, heq⟩

/-- Books in which the same things are alive. -/
theorem alike (h : Accounted objects s) (hc : Change t s call s')
    (contexts : s'.contexts = s.contexts) (primaries : s'.primaries = s.primaries)
    (links : ∀ l, s'.links.contains l = s.links.contains l) (modules : s'.modules = s.modules) :
    Accounted objects s' where
  toIntegrity := h.toIntegrity.change hc
  contexts c := by rw [created, contexts]; exact h.contexts c
  retains d := by rw [State.retains, primaries]; exact h.retains d
  links l := by rw [links]; exact h.links l
  modules := h.modules
  owners m c := by rw [contexts, modules]; exact h.owners m c
  given hm := h.given_after hc hm

/-- What an operation leaves that leaves no trace when it fails. -/
theorem kept {α : Type} {result : Except Status α × State} (kept : Keeps s result)
    (got : Option α → Multiset Object) (failed : Accounted (got none) s)
    (ok : ∀ a s', result = (.ok a, s') → Accounted (got (some a)) s') :
    Accounted (got result.1.toOption) result.2 := by
  rcases result with ⟨e | a, s'⟩
  · rw [kept e s' rfl]
    exact failed
  · exact ok a s' rfl

theorem asks {c : Driver.Call} (hc : c.asks = true) (h : Accounted objects s) :
    Accounted objects (s.after ⟨t, files, c⟩) := by
  cases c <;> first | exact h | cases hc

theorem directs {c : Driver.Call} (hc : c.directs = true) (h : Accounted objects s) :
    Accounted objects (s.after ⟨t, files, c⟩) := by
  cases c with
  | init flags =>
    refine kept (keeps_init s flags) (fun _ => objects) h fun a s' ok => ?_
    obtain ⟨-, device, rfl⟩ := init_eq_ok_iff.1 ok
    exact h.alike (t := t) (.start flags device) rfl rfl (fun _ => rfl) rfl
  | setCurrentContext c =>
    refine kept (keeps_setCurrentContext s t c) (fun _ => objects) h fun a s' ok => ?_
    have hc := change_setCurrentContext ok
    obtain ⟨-, ⟨-, rfl⟩ | ⟨-, -, rfl⟩⟩ := setCurrentContext_eq_ok_iff.1 ok <;>
      exact h.alike hc rfl rfl (fun _ => rfl) rfl
  | launch request =>
    refine kept (keeps_launch s t request) (fun _ => objects) h fun a s' ok => ?_
    obtain ⟨c, f, buffer, current, -, -, -, -, -, -, -, rfl⟩ := launch_eq_ok_iff.1 ok
    have hc (record : LaunchRecord) : Change t s (.launch request) _ :=
      .launch record (current_eq_ok_iff.1 current).1
    exact h.alike (hc _) rfl rfl (fun _ => rfl) rfl
  | _ => cases hc

/-- The driver has been started if there is something in the books. -/
theorem up (h : Accounted objects s) {k : Kind} {c : Handle} (hc : c ∈ s.keysOf k) :
    s.initialized = true := by
  by_contra down
  have blank := h.blank (by simpa using down)
  cases k <;> simp [keysOf, blank.contexts, blank.modules, blank.functions, blank.links] at hc

/-! ### Contexts -/

/-- A new context has no modules. -/
theorem owners_of_insert (h : Accounted objects s) {x : Context}
    (contexts : s'.contexts = s.contexts.insert (s.lastHandle + handleStep) x)
    (modules : s'.modules = s.modules) (m c : Handle) :
    (s'.modules.get? m).map (·.context) = some c ↔
      .module ⟨m, some c⟩ ∈ objects ∧ c ∈ s'.contexts.keys := by
  rw [modules, contexts, h.owners, Table.mem_keys_insert]
  refine and_congr_right fun hm => ⟨Or.inr, fun hc => hc.resolve_left ?_⟩
  rintro rfl
  obtain ⟨-, c, hc, heq⟩ := h.given hm
  have pos := handleStep_pos
  cases heq
  lia

/-- The next handle is no context. -/
theorem not_created_next (h : Accounted objects s) :
    s.created (s.lastHandle + handleStep) = false := by
  by_contra born
  obtain ⟨d, hd⟩ := created_eq_true_iff.1 (by simpa using born)
  exact h.ne_next (k := .context) (Table.mem_keys.2 ⟨_, hd⟩) rfl

theorem addContext (h : Accounted objects s) (hc : Change t s call s') {d : Device}
    (contexts : s'.contexts = s.contexts.insert (s.lastHandle + handleStep) ⟨d, false⟩)
    (primaries : s'.primaries = s.primaries) (links : s'.links = s.links)
    (modules : s'.modules = s.modules) :
    Accounted ({.context ⟨s.lastHandle + handleStep, d⟩} + objects) s' where
  toIntegrity := h.toIntegrity.change hc
  contexts c := by
    rw [owned_add, h.contexts, created_of_insert contexts]
    by_cases hc : c = s.lastHandle + handleStep
    · simp [Object.resource, hc, h.not_created_next]
    · simp [Object.resource, hc, Ne.symm hc]
  retains d' := by
    rw [owned_add, State.retains, primaries]
    exact h.retains d'
  links l := by
    rw [owned_add, links]
    exact h.links l
  modules m := by
    rw [owned_add]
    exact h.modules m
  owners m c := by simpa using h.owners_of_insert contexts modules m c
  given hm := h.given_after hc (by simpa using hm)

theorem createContext (h : Accounted objects s) (flags : Nat) (d : Device) :
    Accounted (made (fun c => .context ⟨c, d⟩)
        (s.reply ⟨t, files, .createContext flags d⟩).toOption + objects)
      (s.after ⟨t, files, .createContext flags d⟩) := by
  refine kept (keeps_createContext s t flags d)
    (fun c => made (fun c => .context ⟨c, d⟩) c + objects) ((Multiset.zero_add objects).symm ▸ h)
    fun c s' ok => ?_
  obtain ⟨up, known, -, rfl, rfl⟩ := createContext_eq_ok_iff.1 ok
  have hc : Change t s (.createContext flags d) _ := .create up known
  exact h.addContext hc rfl rfl rfl rfl

/-- A context, primary or not, is gone with its modules. -/
theorem owners_of_dropContext (h : Accounted objects s) {c : Handle}
    (contexts : s'.contexts = (s.dropContext c).contexts)
    (modules : s'.modules = (s.dropContext c).modules) (m c' : Handle) :
    (s'.modules.get? m).map (·.context) = some c' ↔
      .module ⟨m, some c'⟩ ∈ objects ∧ c' ∈ s'.contexts.keys := by
  rw [modules, contexts, owner_dropContext, h.owners]
  simp only [dropContext, Table.mem_keys_erase]
  rw [and_assoc, and_comm (a := c' ∈ _)]

theorem removeContext {x : Owned.Context} (h : Accounted ({.context x} + objects) s)
    (hc : Change t s call s') (contexts : s'.contexts = (s.dropContext x.handle).contexts)
    (primaries : s'.primaries = s.primaries) (links : s'.links = s.links)
    (modules : s'.modules = (s.dropContext x.handle).modules) : Accounted objects s' where
  toIntegrity := h.toIntegrity.change hc
  contexts c := by
    have before := h.contexts c
    rw [owned_add] at before
    rw [created_of_erase contexts]
    by_cases hc : c = x.handle
    · subst hc
      have := (s.created x.handle).toNat_le
      simp only [Object.resource, if_true] at before
      simp only [if_true, Bool.toNat_false]
      lia
    · simpa [Object.resource, hc, Ne.symm hc] using before
  retains d := by
    have before := h.retains d
    rw [owned_add] at before
    rw [State.retains, primaries]
    exact before
  links l := by
    have before := h.links l
    rw [owned_add] at before
    rw [links]
    exact before
  modules m := by
    have before := h.modules m
    rw [owned_add] at before
    exact before
  owners m c := by simpa using h.owners_of_dropContext contexts modules m c
  given hm := h.given_after hc (Multiset.mem_add.2 (Or.inr hm))

/-- A context that has an object can be destroyed. -/
theorem destroyContext {x : Owned.Context} (t : ThreadId) (files : FileTree)
    (h : Accounted ({.context x} + objects) s) :
    s.reply ⟨t, files, .destroyContext x.handle⟩ = .ok () ∧
      Accounted objects (s.after ⟨t, files, .destroyContext x.handle⟩) := by
  have alive : s.created x.handle = true := by
    have before := h.contexts x.handle
    rw [owned_add, Object.resource, if_pos rfl] at before
    cases hb : s.created x.handle <;> simp [hb] at before ⊢
  obtain ⟨d, hd⟩ := created_eq_true_iff.1 alive
  have up := h.up (k := .context) (Table.mem_keys.2 ⟨_, hd⟩)
  obtain ⟨s', ok, contexts, primaries, links, modules⟩ : ∃ s',
      s.destroyContext t x.handle = (.ok (), s') ∧
        s'.contexts = (s.dropContext x.handle).contexts ∧ s'.primaries = s.primaries ∧
        s'.links = s.links ∧ s'.modules = (s.dropContext x.handle).modules := by
    refine ⟨_, destroyContext_eq_ok_iff.2 ⟨up, ⟨d, hd⟩, rfl⟩, ?_⟩
    split <;> exact ⟨rfl, rfl, rfl, rfl⟩
  obtain ⟨replied, left⟩ := reply_after_of_step (c := .destroyContext x.handle) ok
  have hc := change_destroyContext ok
  exact ⟨replied, left ▸ h.removeContext hc contexts primaries links modules⟩

/-! ### Primary contexts -/

theorem addRetain (h : Accounted objects s) (hc : Change t s call s') {x : Owned.PrimaryContext}
    (contexts : ∀ c, s'.created c = s.created c)
    (retains : ∀ d, s'.retains d = s.retains d + if x.device = d then 1 else 0)
    (links : s'.links = s.links)
    (owners : ∀ m c, (s'.modules.get? m).map (·.context) = some c ↔
      .module ⟨m, some c⟩ ∈ objects ∧ c ∈ s'.contexts.keys) :
    Accounted ({.primary x} + objects) s' where
  toIntegrity := h.toIntegrity.change hc
  contexts c := by simpa [Object.resource, contexts] using h.contexts c
  retains d := by simp [Object.resource, retains, h.retains]
  links l := by simpa [Object.resource, links] using h.links l
  modules m := by simpa [Object.resource] using h.modules m
  owners m c := by simpa using owners m c
  given hm := h.given_after hc (by simpa using hm)

theorem removeRetain {x : Owned.PrimaryContext} (h : Accounted ({.primary x} + objects) s)
    (hc : Change t s call s') (contexts : ∀ c, s'.created c = s.created c)
    (retains : ∀ d, s'.retains d + (if x.device = d then 1 else 0) = s.retains d)
    (links : s'.links = s.links)
    (owners : ∀ m c, (s'.modules.get? m).map (·.context) = some c ↔
      .module ⟨m, some c⟩ ∈ ({.primary x} + objects) ∧ c ∈ s'.contexts.keys) :
    Accounted objects s' where
  toIntegrity := h.toIntegrity.change hc
  contexts c := by simpa [Object.resource, contexts] using h.contexts c
  retains d := by
    have before := h.retains d
    rw [owned_add, ← retains] at before
    simpa [Object.resource] using before
  links l := by simpa [Object.resource, links] using h.links l
  modules m := by simpa [Object.resource] using h.modules m
  owners m c := by simpa using owners m c
  given hm := h.given_after hc (Multiset.mem_add.2 (Or.inr hm))

theorem retain (h : Accounted objects s) (d : Device) :
    Accounted (made (fun c => .primary { handle := c, device := d })
        (s.reply ⟨t, files, .retainPrimary d⟩).toOption + objects)
      (s.after ⟨t, files, .retainPrimary d⟩) := by
  refine kept (keeps_retainPrimary s d)
    (fun c => made (fun c => .primary { handle := c, device := d }) c + objects)
    ((Multiset.zero_add objects).symm ▸ h) fun c s' ok => ?_
  have hc := change_retainPrimary (t := t) ok
  obtain ⟨-, -, ⟨p, hp, rfl, rfl⟩ | ⟨hp, rfl, rfl⟩⟩ := retainPrimary_eq_ok_iff.1 ok
  · refine h.addRetain hc (fun _ => rfl) (fun d' => ?_) rfl h.owners
    rw [retains_of_insert (s := s) rfl]
    by_cases hd : d = d'
    · simp [← hd, retains_of_get? hp]
    · simp [hd]
  · refine h.addRetain hc (fun c => ?_) (fun d' => ?_) rfl (h.owners_of_insert rfl rfl)
    · rw [created_of_insert (s := s) rfl]
      by_cases hc : c = s.lastHandle + handleStep
      · simp [hc, h.not_created_next]
      · simp [hc]
    · rw [retains_of_insert (s := s) rfl]
      by_cases hd : d = d'
      · simp [← hd, State.retains, hp]
      · simp [hd]

/-- A retain that has an object can be released. -/
theorem release {x : Owned.PrimaryContext} (t : ThreadId) (files : FileTree)
    (h : Accounted ({.primary x} + objects) s) :
    s.reply ⟨t, files, .releasePrimary x.device⟩ = .ok () ∧
      Accounted objects (s.after ⟨t, files, .releasePrimary x.device⟩) := by
  have retained : 0 < s.retains x.device := by
    rw [← h.retains, owned_add, Object.resource, if_pos rfl]
    exact Nat.succ_pos _
  obtain ⟨p, hp⟩ : ∃ p, s.primaries.get? x.device.ordinal = some p := by
    rcases hp : s.primaries.get? x.device.ordinal with _ | p
    · simp [State.retains, hp] at retained
    · exact ⟨p, rfl⟩
  obtain ⟨least, alive⟩ := h.primary_alive hp
  have up := h.up (k := .context) (Table.mem_keys.2 ⟨_, alive⟩)
  have known : s.HasDevice x.device := h.device_known alive
  by_cases more : 1 < p.retains
  · have ok := (releasePrimary_eq_ok_iff (u := ())).2
      ⟨up, known, p, hp, Or.inl ⟨more, rfl⟩⟩
    obtain ⟨replied, left⟩ := reply_after_of_step (c := .releasePrimary x.device) ok
    have hc := change_releasePrimary (t := t) ok
    refine ⟨replied, left ▸ h.removeRetain hc (fun _ => rfl) (fun d => ?_) rfl h.owners⟩
    rw [retains_of_insert (s := s) rfl]
    by_cases hd : x.device = d
    · simp only [← hd, retains_of_get? hp, if_true]
      lia
    · simp [hd]
  · have ok := (releasePrimary_eq_ok_iff (u := ())).2
      ⟨up, known, p, hp, Or.inr ⟨Nat.not_lt.1 more, rfl⟩⟩
    obtain ⟨replied, left⟩ := reply_after_of_step (c := .releasePrimary x.device) ok
    have hc := change_releasePrimary (t := t) ok
    refine ⟨replied, left ▸ h.removeRetain hc (fun c => ?_) (fun d => ?_) rfl
      (h.owners_of_dropContext rfl rfl)⟩
    · -- the context that goes is a primary one
      rw [created_of_erase (s := s) rfl]
      by_cases hc : c = p.context
      · simp [hc, created, alive]
      · simp [hc]
    · rw [retains_of_erase (s := s) rfl]
      by_cases hd : x.device = d
      · simp only [← hd, retains_of_get? hp, if_true]
        lia
      · simp [hd]

/-! ### Link sessions -/

theorem addLink (h : Accounted objects s) (hc : Change t s call s') {inputs : List LinkInput}
    (contexts : s'.contexts = s.contexts) (primaries : s'.primaries = s.primaries)
    (links : s'.links = s.links.insert (s.lastHandle + handleStep) inputs)
    (modules : s'.modules = s.modules) :
    Accounted ({.link ⟨s.lastHandle + handleStep, 0⟩} + objects) s' where
  toIntegrity := h.toIntegrity.change hc
  contexts c := by simpa [Object.resource, created, contexts] using h.contexts c
  retains d := by simpa [Object.resource, State.retains, primaries] using h.retains d
  links l := by
    have unborn : s.links.contains (s.lastHandle + handleStep) = false := by
      by_contra born
      exact h.ne_next (k := .link) (Table.mem_keys_iff.2 (eq_true_of_ne_false born)) rfl
    rw [owned_add, h.links, links, Table.contains_insert]
    by_cases hl : l = s.lastHandle + handleStep
    · simp [Object.resource, hl, unborn]
    · simp [Object.resource, hl, Ne.symm hl]
  modules m := by simpa [Object.resource] using h.modules m
  owners m c := by simpa [contexts, modules] using h.owners m c
  given hm := h.given_after hc (by simpa using hm)

theorem beginLink (h : Accounted objects s) :
    Accounted (made (fun l => .link ⟨l, 0⟩) (s.reply ⟨t, files, .createLink⟩).toOption + objects)
      (s.after ⟨t, files, .createLink⟩) := by
  refine kept (keeps_createLink s t) (fun l => made (fun l => .link ⟨l, 0⟩) l + objects)
    ((Multiset.zero_add objects).symm ▸ h) fun l s' ok => ?_
  obtain ⟨⟨c, current⟩, rfl, rfl⟩ := createLink_eq_ok_iff.1 ok
  exact h.addLink (.beginLink (t := t) (current_eq_ok_iff.1 current).1) rfl rfl rfl rfl

theorem addInput (h : Accounted objects s) (l : Handle) (kind : ImageKind) (data name : Bytes) :
    Accounted objects (s.after ⟨t, files, .addLinkInput l kind data name⟩) := by
  refine kept (keeps_addLinkInput s l kind data name) (fun _ => objects) h fun a s' ok => ?_
  obtain ⟨up, inputs, text, alive, -, read, valid, rfl⟩ := addLinkInput_eq_ok_iff.1 ok
  have hc : Change t s (.addLinkInput l kind data name) _ := .extendLink up alive read valid
  refine h.alike hc rfl rfl (fun l' => ?_) rfl
  rw [Table.contains_insert]
  by_cases hl : l' = l
  · simp [hl, Table.contains, alive]
  · simp [hl]

theorem recount {l : LinkSession} {n : Nat} (h : Accounted ({.link l} + objects) s) :
    Accounted ({.link { l with inputCount := n }} + objects) s where
  toIntegrity := h.toIntegrity
  contexts c := by simpa [Object.resource] using h.contexts c
  retains d := by simpa [Object.resource] using h.retains d
  links l := by simpa [Object.resource] using h.links l
  modules m := by simpa [Object.resource] using h.modules m
  owners m c := by simpa using h.owners m c
  given hm := h.given (by simpa using hm)

theorem removeLink {l : LinkSession} (h : Accounted ({.link l} + objects) s)
    (hc : Change t s call s') (contexts : s'.contexts = s.contexts)
    (primaries : s'.primaries = s.primaries) (links : s'.links = s.links.erase l.handle)
    (modules : s'.modules = s.modules) : Accounted objects s' where
  toIntegrity := h.toIntegrity.change hc
  contexts c := by simpa [Object.resource, created, contexts] using h.contexts c
  retains d := by simpa [Object.resource, State.retains, primaries] using h.retains d
  links l' := by
    have before := h.links l'
    rw [owned_add] at before
    rw [links, Table.contains_erase]
    by_cases hl : l' = l.handle
    · have := (s.links.contains l').toNat_le
      simp only [Object.resource, hl, if_true] at before this
      simp only [hl, if_true, Bool.toNat_false]
      lia
    · simpa [Object.resource, hl, Ne.symm hl] using before
  modules m := by simpa [Object.resource] using h.modules m
  owners m c := by simpa [contexts, modules] using h.owners m c
  given hm := h.given_after hc (Multiset.mem_add.2 (Or.inr hm))

/-- A link session that has an object can be ended. -/
theorem endLink {l : LinkSession} (t : ThreadId) (files : FileTree)
    (h : Accounted ({.link l} + objects) s) :
    s.reply ⟨t, files, .destroyLink l.handle⟩ = .ok () ∧
      Accounted objects (s.after ⟨t, files, .destroyLink l.handle⟩) := by
  have before := h.links l.handle
  rw [owned_add, Object.resource, if_pos rfl] at before
  have contained : s.links.contains l.handle = true := by
    cases hb : s.links.contains l.handle <;> simp [hb] at before ⊢
  have alive : l.handle ∈ s.links.keys := Table.mem_keys_iff.2 contained
  have up := h.up (k := .link) alive
  have ok := (destroyLink_eq_ok_iff (u := ())).2 ⟨up, alive, rfl⟩
  obtain ⟨replied, left⟩ := reply_after_of_step (c := .destroyLink l.handle) ok
  exact ⟨replied, left ▸ h.removeLink (.endLink (t := t) up alive) rfl rfl rfl rfl⟩

/-! ### Modules -/

/-- The next handle has no object. -/
theorem not_owned_next (h : Accounted objects s) :
    owned (.module (s.lastHandle + handleStep)) objects = 0 := by
  refine Multiset.countP_eq_zero.2 fun o ho => ?_
  cases o with
  | module m =>
    have := (h.given ho).2.1
    have pos := handleStep_pos
    simp only [Object.resource, Resource.module.injEq]
    lia
  | _ => simp [Object.resource]

theorem addModule (h : Accounted objects s) (hc : Change t s call s') (loaded : Module)
    (alive : loaded.context ∈ s.contexts.keys) (contexts : s'.contexts = s.contexts)
    (primaries : s'.primaries = s.primaries) (links : s'.links = s.links)
    (modules : s'.modules = s.modules.insert (s.lastHandle + handleStep) loaded)
    (up : s'.initialized = true) (last : s.lastHandle + handleStep ≤ s'.lastHandle) :
    Accounted ({.module ⟨s.lastHandle + handleStep, some loaded.context⟩} + objects) s' where
  toIntegrity := h.toIntegrity.change hc
  contexts c := by simpa [Object.resource, created, contexts] using h.contexts c
  retains d := by simpa [Object.resource, State.retains, primaries] using h.retains d
  links l := by simpa [Object.resource, links] using h.links l
  modules m := by
    rw [owned_add]
    by_cases hm : m = s.lastHandle + handleStep
    · simp [hm, h.not_owned_next, Object.resource]
    · simpa [Object.resource, Ne.symm hm] using h.modules m
  owners m c := by
    rw [modules, contexts, Table.get?_insert]
    by_cases hm : m = s.lastHandle + handleStep
    · subst hm
      have absent : .module ⟨s.lastHandle + handleStep, some c⟩ ∉ objects := fun hm =>
        (owned_pos_of_mem hm).ne' h.not_owned_next
      suffices loaded.context = c → c ∈ s.contexts.keys by
        simpa [absent, eq_comm (a := c)] using this
      rintro rfl
      exact alive
    · simpa [hm] using h.owners m c
  given hm := by
    rcases Multiset.mem_add.1 hm with hm | hm
    · obtain rfl : _ = _ := by simpa using hm
      have live := (h.key_bounds (k := .context) alive).2
      exact ⟨up, last, _, live.trans hc.lastHandle_le, rfl⟩
    · exact h.given_after hc hm

/-- A module that is loaded is of the context that was shown before. -/
theorem load (h : Accounted objects s) (image : Bytes) {shown : Handle}
    (top : s.currentContext t = .ok shown) :
    Accounted (made (fun m => .module ⟨m, Module.remembered shown⟩)
        (s.loadImage t image).1.toOption + objects) (s.loadImage t image).2 := by
  have hc := change_loadImage (s := s) (t := t) (.loadModuleData image) image
  rcases hl : s.loadImage t image with ⟨e | m, s'⟩ <;> rw [hl] at hc
  · refine (Multiset.zero_add objects).symm ▸ ?_
    obtain ⟨-, rfl⟩ | ⟨-, c, text, cursor, -, -, -, rfl⟩ := loadImage_eq_error_cases hl
    · exact h
    · exact h.alike hc rfl rfl (fun _ => rfl) rfl
  · obtain ⟨c, text, globals, cursor, current, -, -, -, hm⟩ := loadImage_eq_ok_iff.1 hl
    obtain ⟨rfl, rfl⟩ := Prod.mk.inj hm
    obtain ⟨up, htop, alive⟩ := current_eq_ok_iff.1 current
    obtain rfl : c = shown := by
      have := (currentContext_eq_ok_iff.1 top).2
      rwa [htop] at this
    have nonzero : c ≠ 0 := (h.key_bounds (k := .context) alive).1.ne'
    have remembered : Module.remembered c = some c := if_neg nonzero
    rw [remembered]
    exact h.addModule hc ⟨c, _, globals⟩ alive rfl rfl rfl rfl up (Nat.le_add_right _ _)

/-- No other object is for the same module. -/
theorem not_mem_of_handle_eq {m m' : Owned.Module} (h : Accounted ({.module m} + objects) s)
    (same : m'.handle = m.handle) : .module m' ∉ objects := by
  intro hmem
  have before := h.modules m.handle
  rw [owned_add, Object.resource, if_pos rfl] at before
  have : 0 < owned (.module m'.handle) objects := owned_pos_of_mem hmem
  rw [same] at this
  lia

/-- The module of an object is alive exactly if its context is. -/
theorem mem_modules_iff {m : Owned.Module} (h : Accounted ({.module m} + objects) s) :
    m.handle ∈ s.modules.keys ↔ ∃ c ∈ s.contexts.keys, m.context = some c := by
  rw [Table.mem_keys]
  constructor
  · rintro ⟨loaded, hm⟩
    obtain ⟨hmem, alive⟩ := (h.owners m.handle loaded.context).1 (by rw [hm, Option.map_some])
    rcases Multiset.mem_add.1 hmem with hmem | hmem
    · have heq : m = ⟨m.handle, some loaded.context⟩ := by simpa [eq_comm] using hmem
      exact ⟨_, alive, congrArg (·.context) heq⟩
    · exact absurd hmem (h.not_mem_of_handle_eq rfl)
  · rintro ⟨c, alive, hc⟩
    have hmem : .module ⟨m.handle, some c⟩ ∈ ({.module m} + objects : Multiset Object) := by
      simp [← hc]
    obtain ⟨loaded, hm, -⟩ := Option.map_eq_some_iff.1 ((h.owners m.handle c).2 ⟨hmem, alive⟩)
    exact ⟨loaded, hm⟩

theorem removeModule {m : Owned.Module} (h : Accounted ({.module m} + objects) s)
    (hc : Change t s call s') (contexts : s'.contexts = s.contexts)
    (primaries : s'.primaries = s.primaries) (links : s'.links = s.links)
    (modules : ∀ m', s'.modules.get? m' = if m' = m.handle then none else s.modules.get? m') :
    Accounted objects s' where
  toIntegrity := h.toIntegrity.change hc
  contexts c := by simpa [Object.resource, created, contexts] using h.contexts c
  retains d := by simpa [Object.resource, State.retains, primaries] using h.retains d
  links l := by simpa [Object.resource, links] using h.links l
  modules m' := by
    have before := h.modules m'
    rw [owned_add] at before
    lia
  owners m' c := by
    rw [modules, contexts]
    by_cases hm : m' = m.handle
    · have absent : .module ⟨m', some c⟩ ∉ objects := h.not_mem_of_handle_eq hm
      simp [hm ▸ absent, hm]
    · have other : (⟨m', some c⟩ : Owned.Module) ≠ m := fun heq => hm (heq ▸ rfl)
      simpa [hm, other] using h.owners m' c
  given hm := h.given_after hc (Multiset.mem_add.2 (Or.inr hm))

/-- A module that has an object can be unloaded if its context is alive; otherwise it is gone
already. -/
theorem unload {m : Owned.Module} (t : ThreadId) (files : FileTree)
    (h : Accounted ({.module m} + objects) s) :
    (s.reply ⟨t, files, .unloadModule m.handle⟩ =
        if m.handle ∈ s.modules.keys then .ok () else .error .invalidHandle) ∧
      Accounted objects (s.after ⟨t, files, .unloadModule m.handle⟩) := by
  obtain ⟨up, -⟩ := h.given (m := m) (by simp)
  have unloaded := unloadModule_eq up m.handle
  refine ⟨congrArg Prod.fst unloaded, ?_⟩
  rw [show s.after ⟨t, files, .unloadModule m.handle⟩ = _ from congrArg Prod.snd unloaded]
  exact h.removeModule (.unload (t := t) up) rfl rfl rfl fun m' => Table.get?_erase _ _ _

theorem loadFile (h : Accounted objects s) (path : Path) {shown : Handle}
    (top : s.currentContext t = .ok shown) :
    Accounted (made (fun m => .module ⟨m, Module.remembered shown⟩)
        (s.loadFile t files path).1.toOption + objects) (s.loadFile t files path).2 := by
  obtain ⟨e, -, hl⟩ | ⟨image, -, hl⟩ := loadFile_cases s t files path <;> rw [hl]
  · exact (Multiset.zero_add objects).symm ▸ h
  · exact h.load image top

/-! ### The rest -/

/-- No handle in the books is null. -/
theorem letGo {o : Object} (null : o.isNull = true) (h : Accounted ({o} + objects) s) :
    Accounted objects s := by
  have absent (k : Kind) : 0 ∉ s.keysOf k := fun h0 => absurd (h.key_bounds h0).1 (Nat.lt_irrefl 0)
  cases o with
  | context c =>
    have hc : c.handle = 0 := by simpa [Object.isNull] using null
    have before := h.contexts 0
    rw [owned_add, Object.resource, hc, if_pos rfl] at before
    have dead : s.created 0 = false := by
      by_contra alive
      obtain ⟨d, hd⟩ := created_eq_true_iff.1 (eq_true_of_ne_false alive)
      exact absent .context (Table.mem_keys.2 ⟨_, hd⟩)
    simp [dead] at before
  | link l =>
    have hl : l.handle = 0 := by simpa [Object.isNull] using null
    have before := h.links 0
    rw [owned_add, Object.resource, hl, if_pos rfl] at before
    have dead : s.links.contains 0 = false := by
      by_contra alive
      exact absent .link (Table.mem_keys_iff.2 (eq_true_of_ne_false alive))
    simp [dead] at before
  | module m =>
    have hm : m.handle = 0 := by simpa [Object.isNull] using null
    have missing : s.modules.get? 0 = none := by
      simpa [Table.mem_keys_iff, keysOf] using absent .module
    refine h.removeModule (.nothing (t := 0) (.unloadModule 0)) rfl rfl rfl fun m' => ?_
    by_cases hm' : m' = 0 <;> simp [hm, hm', missing]
  | primary c => cases null
  | program q => cases null

/-- Programs are not in the books. -/
theorem program_iff {q : Owned.Program} :
    Accounted ({.program q} + objects) s ↔ Accounted objects s := by
  refine ⟨fun h => ?_, fun h => ?_⟩ <;> exact {
    toIntegrity := h.toIntegrity
    contexts := fun c => by simpa [Object.resource] using h.contexts c
    retains := fun d => by simpa [Object.resource] using h.retains d
    links := fun l => by simpa [Object.resource] using h.links l
    modules := fun m => by simpa [Object.resource] using h.modules m
    owners := fun m c => by simpa using h.owners m c
    given := fun hm => h.given (by simpa using hm) }

end Accounted

end InProcess

/-! ### Platforms on the in-process driver -/

open InProcess InProcess.State

section Platforms

variable {σ : Type} {p : Platform σ} {books : σ → State}

theorem Platform.KeepsBooks.currentContext (h : p.KeepsBooks books) {t : ThreadId}
    {files : FileTree} {c : Handle} {s s' : σ}
    (shown : p.driver t files .currentContext s = (.ok c, s')) :
    (books s').currentContext t = .ok c ∧ books s' = books s := by
  have hreply := h.reply t files .currentContext s
  have hafter := h.after t files .currentContext s
  rw [shown] at hreply hafter
  have same : books s' = books s := hafter
  rw [same]
  exact ⟨hreply.symm, rfl⟩

theorem Platform.KeepsBooks.accounts (h : p.KeepsBooks books) (t : ThreadId) :
    Accounts p t fun objects s => Accounted objects (books s) where
  asks hc held := by
    rw [h.after]
    exact held.asks hc
  directs hc held := by
    rw [h.after]
    exact held.directs hc
  createContext held := by
    rw [h.reply, h.after]
    exact held.createContext _ _
  destroyContext held := by
    rw [h.after]
    exact (held.destroyContext _ _).2
  retain held := by
    rw [h.reply, h.after]
    exact held.retain _
  release held := by
    rw [h.after]
    exact (held.release _ _).2
  beginLink held := by
    rw [h.reply, h.after]
    exact held.beginLink
  addInput held := by
    rw [h.after]
    exact held.addInput _ _ _ _
  recount held := held.recount
  endLink held := by
    rw [h.after]
    exact (held.endLink _ _).2
  loadData held shown := by
    obtain ⟨top, same⟩ := h.currentContext shown
    rw [h.reply, h.after]
    exact (same ▸ held).load _ top
  loadFile held shown := by
    obtain ⟨top, same⟩ := h.currentContext shown
    rw [h.reply, h.after]
    exact (same ▸ held).loadFile _ top
  unload held := by
    rw [h.after]
    exact (held.unload _ _).2
  letGo null held := held.letGo null
  asksNvrtc hc held := by rwa [h.nvrtc]
  compile held := by rwa [h.nvrtc]
  createProgram {source octets name _ s} held := by
    rw [h.nvrtc]
    cases (p.nvrtc (.create source octets) s).1 with
    | error e => exact (Multiset.zero_add _).symm ▸ held
    | ok q => exact Accounted.program_iff.2 held
  destroyProgram held := by
    rw [h.nvrtc]
    exact Accounted.program_iff.1 held

/-! ### Giving back -/

theorem Platform.call_of_ok {t : ThreadId} {c : Driver.Call} {w : World σ} {value : c.Value}
    (ok : (p.driver t w.files c w.native).1 = .ok value) :
    p.call t c w = (.ok value, { w with native := (p.driver t w.files c w.native).2 }) := by
  unfold Platform.call Platform.ask
  rcases hc : p.driver t w.files c w.native with ⟨e | value', s⟩ <;> rw [hc] at ok
  · cases ok
  · cases ok
    rfl

theorem Platform.call_fst_eq_ok_iff {t : ThreadId} {c : Driver.Call} {w : World σ}
    {value : c.Value} :
    (p.call t c w).1 = .ok value ↔ (p.driver t w.files c w.native).1 = .ok value := by
  unfold Platform.call Platform.ask
  rcases p.driver t w.files c w.native with ⟨e | value', s⟩ <;> simp

/-- An object can be destroyed, but for a module whose context is gone. -/
theorem Platform.KeepsBooks.destroy_eq_ok_iff (h : p.KeepsBooks books) {t : ThreadId} {o : Object}
    {objects : Multiset Object} {w : World σ}
    (held : Accounted ({o} + objects) (books w.native)) :
    (o.destroy p t w).1 = .ok () ↔ ∀ m, o = .module m →
      ∃ c ∈ (books w.native).contexts.keys, m.context = some c := by
  cases o with
  | context c =>
    have ok := (h.reply ..).trans (held.destroyContext t w.files).1
    have destroyed := Platform.call_fst_eq_ok_iff.2 ok
    simpa [Object.destroy, c.destroy_eq] using destroyed
  | primary c =>
    have ok := (h.reply ..).trans (held.release t w.files).1
    have released := Platform.call_fst_eq_ok_iff.2 ok
    simpa [Object.destroy, c.release_eq] using released
  | link l =>
    have ok := (h.reply ..).trans (held.endLink t w.files).1
    have ended := Platform.call_fst_eq_ok_iff.2 ok
    simpa [Object.destroy, l.destroy_eq] using ended
  | module m =>
    have replied := (h.reply ..).trans (held.unload t w.files).1
    have unloaded : (p.call t (.unloadModule m.handle) w).1 = .ok () ↔
        m.handle ∈ (books w.native).modules.keys := by
      refine Platform.call_fst_eq_ok_iff.trans ?_
      rw [replied]
      split <;> simp_all
    simpa [Object.destroy, m.unload_eq, unloaded] using held.mem_modules_iff
  | program q => simp [Object.destroy, Act.change]

/-- Dropping an object of the driver gives no warning. -/
theorem Platform.KeepsBooks.warnings_drop (h : p.KeepsBooks books) {t : ThreadId} {o : Object}
    {objects : Multiset Object} {w : World σ}
    (held : Accounted ({o} + objects) (books w.native)) (driver : ∀ q, o ≠ .program q) :
    (o.drop p t w).warnings = w.warnings := by
  cases o with
  | context c =>
    have ok := (h.reply ..).trans (held.destroyContext t w.files).1
    have destroyed := Platform.call_of_ok ok
    simp only [Object.drop, Owned.Context.drop, Owned.Context.destroyRaw, destroyed]
    split <;> rfl
  | primary c =>
    have ok := (h.reply ..).trans (held.release t w.files).1
    have destroyed := Platform.call_of_ok ok
    simp only [Object.drop, c.drop_eq, Driver.releasePrimary, destroyed]
  | link l =>
    have ok := (h.reply ..).trans (held.endLink t w.files).1
    have destroyed := Platform.call_of_ok ok
    simp only [Object.drop, Owned.LinkSession.drop, destroyed]
    split <;> rfl
  | module m =>
    have replied := (h.reply ..).trans (held.unload t w.files).1
    have quiet : (p.ask t (.unloadModule m.handle) w).2.warnings = w.warnings := rfl
    have replied : (p.ask t (.unloadModule m.handle) w).1 = _ := replied
    simp only [Object.drop, Owned.Module.drop]
    split
    · rfl
    rcases hu : p.ask t (.unloadModule m.handle) w with ⟨status | u, w'⟩ <;>
      rw [hu] at quiet replied
    · have gone : status = .invalidHandle := by
        dsimp only at replied
        split at replied
        · cases replied
        · exact Except.error.inj replied
      rw [gone]
      exact quiet
    · exact quiet
  | program q => exact absurd rfl (driver q)

/-! ### Calls that give back -/

/-- A call that gives something back succeeds, except that a module may be gone with its context. -/
def Exchange.smooth : Exchange → Prop
  | .driver _ (.destroyContext _) reply => reply = .ok ()
  | .driver _ (.releasePrimary _) reply => reply = .ok ()
  | .driver _ (.destroyLink _) reply => reply = .ok ()
  | .driver _ (.unloadModule _) reply => reply = .ok () ∨ reply = .error .invalidHandle
  | _ => True

theorem Exchange.smooth_of_idle {t : ThreadId} {c : Driver.Call}
    (hc : (c.asks || c.directs) = true) (reply : c.Reply) :
    (Exchange.driver t c reply).smooth := by
  cases c <;> trivial

/-- In the record of a run that works with owned objects only, everything is given back smoothly. -/
theorem Platform.KeepsBooks.recorded_accounts (h : p.KeepsBooks books) (t : ThreadId) :
    Accounts p.recorded t fun objects (s : σ × List Exchange) =>
      Accounted objects (books s.1) ∧ ∀ e ∈ s.2, e.smooth := by
  have accounts := h.accounts t
  have more {files : FileTree} {c : Driver.Call} {s : σ × List Exchange}
      (before : ∀ e ∈ s.2, e.smooth)
      (smooth : (Exchange.driver t c (p.driver t files c s.1).1).smooth) :
      ∀ e ∈ (p.recorded.driver t files c s).2.2, e.smooth :=
    List.forall_mem_append.2 ⟨before, List.forall_mem_singleton.2 smooth⟩
  have compiled {c : Nvrtc.Call} {s : σ × List Exchange} (before : ∀ e ∈ s.2, e.smooth) :
      ∀ e ∈ (p.recorded.nvrtc c s).2.2, e.smooth :=
    List.forall_mem_append.2 ⟨before, List.forall_mem_singleton.2 trivial⟩
  have shows {files : FileTree} {c : Handle} {s s' : σ × List Exchange}
      (before : ∀ e ∈ s.2, e.smooth)
      (shown : p.recorded.driver t files .currentContext s = (.ok c, s')) :
      p.driver t files .currentContext s.1 = (.ok c, s'.1) ∧ ∀ e ∈ s'.2, e.smooth := by
    obtain ⟨hreply, hstate⟩ := Prod.mk.inj shown
    subst hstate
    have still : ∀ e ∈ (p.recorded.driver t files .currentContext s).2.2, e.smooth :=
      more before trivial
    exact ⟨Prod.ext hreply rfl, still⟩
  have unloaded {files : FileTree} {m : Owned.Module} {objects : Multiset Object} {s : σ}
      (held : Accounted ({.module m} + objects) (books s)) :
      (Exchange.driver t (.unloadModule m.handle)
        (p.driver t files (.unloadModule m.handle) s).1).smooth := by
    rw [h.reply, (held.unload t files).1]
    split
    · exact Or.inl rfl
    · exact Or.inr rfl
  exact {
    asks := fun hc held =>
      ⟨accounts.asks hc held.1, more held.2 (Exchange.smooth_of_idle (by simp [hc]) _)⟩
    directs := fun hc held =>
      ⟨accounts.directs hc held.1, more held.2 (Exchange.smooth_of_idle (by simp [hc]) _)⟩
    createContext := fun held => ⟨accounts.createContext held.1, more held.2 trivial⟩
    destroyContext := fun held => ⟨accounts.destroyContext held.1,
      more held.2 ((h.reply ..).trans (held.1.destroyContext _ _).1)⟩
    retain := fun held => ⟨accounts.retain held.1, more held.2 trivial⟩
    release := fun held => ⟨accounts.release held.1,
      more held.2 ((h.reply ..).trans (held.1.release _ _).1)⟩
    beginLink := fun held => ⟨accounts.beginLink held.1, more held.2 trivial⟩
    addInput := fun held => ⟨accounts.addInput held.1, more held.2 trivial⟩
    recount := fun held => ⟨held.1.recount, held.2⟩
    endLink := fun held => ⟨accounts.endLink held.1,
      more held.2 ((h.reply ..).trans (held.1.endLink _ _).1)⟩
    loadData := fun held shown =>
      ⟨accounts.loadData held.1 (shows held.2 shown).1, more (shows held.2 shown).2 trivial⟩
    loadFile := fun held shown =>
      ⟨accounts.loadFile held.1 (shows held.2 shown).1, more (shows held.2 shown).2 trivial⟩
    unload := fun held => ⟨accounts.unload held.1, more held.2 (unloaded held.1)⟩
    letGo := fun null held => ⟨held.1.letGo null, held.2⟩
    asksNvrtc := fun hc held => ⟨accounts.asksNvrtc hc held.1, compiled held.2⟩
    compile := fun held => ⟨accounts.compile held.1, compiled held.2⟩
    createProgram := fun held => ⟨accounts.createProgram held.1, compiled held.2⟩
    destroyProgram := fun held => ⟨accounts.destroyProgram held.1, compiled held.2⟩ }

end Platforms

/-- **Owned objects account for everything native.** On the in-process driver, with any runtime compiler
and any commands, at the end of any run in which nobody forgets an object:

* what is alive in the books is what there are objects for;
* every object can be destroyed, but for a module whose context is gone;
* dropping an object of the driver gives no warning;
* every call so far that gave a context, a retain or a link session back succeeded, those for temporary
  objects included, and every call that gave a module back succeeded or found it gone. -/
theorem Session.objects_account_for_books {σ : Type} (p : Platform σ) (books : σ → State)
    (h : p.KeepsBooks books) (devices : Int) (capability : Int × Int) (w : World σ)
    (start : books w.native = fresh devices capability) (xs : List Session.Happening)
    (orderly : ∀ x ∈ xs, x.orderly = true) :
    let s := Session.run p ⟨w, .empty⟩ xs
    Tally s.objects (books s.world.native) ∧
      (∀ (t : ThreadId) (slot : String) (o : Object), s.slots.get? slot = some o →
        ((Session.step p t (.destroy slot) s).1 = .ok () ↔ ∀ m, o = .module m →
          ∃ c ∈ (books s.world.native).contexts.keys, m.context = some c) ∧
        ((∀ q, o ≠ .program q) →
          (Session.step p t (.drop slot) s).2.world.warnings = s.world.warnings)) ∧
      ∀ e ∈ (Session.run p.recorded ⟨w.recorded, .empty⟩ xs).record, e.smooth := by
  intro s
  have held : Accounted s.objects (books s.world.native) :=
    Session.run_held h.accounts orderly (s := ⟨w, .empty⟩)
      (start ▸ accounted_fresh devices capability)
  refine ⟨held.toTally, fun t slot o full => ?_, ?_⟩
  · rw [Session.objects, Table.values_of_get? full] at held
    refine ⟨?_, fun driver => ?_⟩
    · rw [← h.destroy_eq_ok_iff (t := t) held]
      simp only [Session.step, Session.taking, full, Session.acting]
      rcases o.destroy p t s.world with ⟨e | u, w'⟩ <;> simp
    · simp only [Session.step, Session.taking, full]
      exact h.warnings_drop held driver
  · refine (Session.run_held h.recorded_accounts orderly (s := ⟨w.recorded, .empty⟩) ⟨?_, ?_⟩).2
    · exact start ▸ accounted_fresh devices capability
    · exact fun e he => absurd he List.not_mem_nil

/-- Two threads retain a primary context, and one of the retains is dropped: one is left. -/
theorem Session.objects_account_for_books_shared :
    let s := Session.run (Platform.inProcess .bare)
      ⟨{ native := ({ vendor := () } : Bench Unit) }, .empty⟩
      [.operation 0 (.init 0), .operation 0 (.make "a" (.primary ⟨0⟩)),
        .operation 1 (.make "b" (.primary ⟨0⟩)), .operation 1 (.make "c" (.context ⟨0⟩ 0)),
        .operation 1 (.drop "a")]
    owned (.primary ⟨0⟩) s.objects = 1 ∧ s.world.native.driver.retains ⟨0⟩ = 1 := by
  intro s
  have left : owned (.primary ⟨0⟩) s.objects = 1 := rfl
  have tally : Tally s.objects s.world.native.driver :=
    (Session.objects_account_for_books _ Bench.driver (Platform.keepsBooks_inProcess _) 1 (7, 0)
      { native := ({ vendor := () } : Bench Unit) } rfl
      [.operation 0 (.init 0), .operation 0 (.make "a" (.primary ⟨0⟩)),
        .operation 1 (.make "b" (.primary ⟨0⟩)), .operation 1 (.make "c" (.context ⟨0⟩ 0)),
        .operation 1 (.drop "a")] (by simp [Session.Happening.orderly, Session.Operation.abandons])).1
  exact ⟨left, (tally.retains ⟨0⟩).symm.trans left⟩

end GpuDriver
