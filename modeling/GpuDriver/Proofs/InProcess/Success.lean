import GpuDriver.InProcess.Step
import GpuDriver.Proofs.Table

/-!
# When a call of the in-process driver succeeds

For each operation that can change the books, one equivalence: under which conditions it succeeds, what
it answers then, and which books it leaves (`…_eq_ok_iff`); and for each what it leaves when it fails:
the books as they were (`keeps_…`), except that a load may have moved the cursor of device memory
(`loadImage_eq_error_cases`) and that a refused unload has dropped the kernels listed for the handle
(`unloadModule_eq_error_cases`). Every other module reads the operations through these.
-/

namespace GpuDriver.InProcess

theorem bind_eq_ok_iff {ε α β : Type} {x : Except ε α} {f : α → Except ε β} {b : β} :
    (x >>= f) = .ok b ↔ ∃ a, x = .ok a ∧ f a = .ok b := by
  cases x <;> simp [bind, Except.bind]

theorem pure_eq_ok_iff {ε α : Type} {a b : α} : (pure a : Except ε α) = .ok b ↔ a = b := by
  simp [pure, Except.pure]

namespace State

variable {s s' : State} {t : ThreadId}

/-- A reply together with what was left. -/
theorem exists_of_reply {α : Type} {result : Except Status α × State} {answer : Except Status α}
    (h : result.1 = answer) : ∃ s', result = (answer, s') ∧ result.2 = s' :=
  ⟨result.2, Prod.ext h rfl, rfl⟩

theorem provided_eq_ok_iff {α β : Type} {answer : Except Status α}
    {next : α → Except Status β × State} {b : β} :
    s.provided answer next = (.ok b, s') ↔ ∃ a, answer = .ok a ∧ next a = (.ok b, s') := by
  cases answer <;> simp [provided]

/-! ### Failing without a trace -/

/-- If the operation fails, it leaves the books `s`. -/
def Keeps {α : Type} (s : State) (result : Except Status α × State) : Prop :=
  ∀ e s', result = (.error e, s') → s' = s

theorem Keeps.ok {α : Type} (a : α) : Keeps s (.ok a, s') := by
  rintro e s'' ⟨⟩

theorem Keeps.error {α : Type} (e : Status) : Keeps (α := α) s (.error e, s) := by
  rintro e' s'' ⟨⟩
  rfl

/-- A check that comes before anything was changed leaves no trace. -/
theorem Keeps.provided {α β : Type} {answer : Except Status α} {next : α → Except Status β × State}
    (h : ∀ a, Keeps s (next a)) : Keeps s (s.provided answer next) := by
  cases answer with
  | error e => exact .error e
  | ok a => exact h a

/-- What holds of the books as they were and of what each success leaves, holds of what is left. -/
theorem Keeps.elim {α : Type} {result : Except Status α × State} (kept : Keeps s result)
    {P : State → Prop} (same : P s) (changed : ∀ a s', result = (.ok a, s') → P s') : P result.2 := by
  rcases result with ⟨e | a, s'⟩
  · rw [kept e s' rfl]
    exact same
  · exact changed a s' rfl

/-! ### Requirements -/

/-- The driver knows the device. -/
def HasDevice (s : State) (d : Device) : Prop := 0 ≤ d.ordinal ∧ d.ordinal < s.deviceCount

theorem requireInit_eq_ok_iff {u : Unit} : s.requireInit = .ok u ↔ s.initialized = true := by
  unfold requireInit
  split <;> simp_all

theorem requireDevice_eq_ok_iff {d : Device} {u : Unit} :
    s.requireDevice d = .ok u ↔ s.initialized = true ∧ s.HasDevice d := by
  unfold requireDevice HasDevice
  simp only [bind_eq_ok_iff, requireInit_eq_ok_iff, exists_const]
  split <;> simp_all

theorem current_eq_ok_iff {c : Handle} :
    s.current t = .ok c ↔ s.initialized = true ∧ s.top t = some c ∧ c ∈ s.contexts.keys := by
  unfold current
  simp only [bind_eq_ok_iff, requireInit_eq_ok_iff, exists_const]
  refine and_congr_right fun _ => ?_
  cases htop : s.top t with
  | none => simp
  | some c' =>
    simp only [Table.contains_iff, ← Table.mem_keys]
    split
    · rename_i h
      simp only [Except.ok.injEq, Option.some.injEq]
      exact ⟨fun e => ⟨e, e ▸ h⟩, And.left⟩
    · rename_i h
      simp only [reduceCtorEq, Option.some.injEq, false_iff, not_and]
      exact fun e => e ▸ h

theorem currentContext_eq_ok_iff {c : Handle} :
    s.currentContext t = .ok c ↔ s.initialized = true ∧ (s.top t).getD 0 = c := by
  unfold currentContext
  simp only [bind_eq_ok_iff, requireInit_eq_ok_iff, exists_const, pure_eq_ok_iff]

theorem link_eq_ok_iff {l : Handle} {inputs : List LinkInput} :
    s.link l = .ok inputs ↔ s.initialized = true ∧ s.links.get? l = some inputs := by
  unfold link
  simp only [bind_eq_ok_iff, requireInit_eq_ok_iff, exists_const]
  refine and_congr_right fun _ => ?_
  cases s.links.get? l <;> simp

theorem module_eq_ok_iff {m : Handle} {loaded : Module} :
    s.module m = .ok loaded ↔ s.initialized = true ∧ s.modules.get? m = some loaded := by
  unfold module
  simp only [bind_eq_ok_iff, requireInit_eq_ok_iff, exists_const]
  refine and_congr_right fun _ => ?_
  cases s.modules.get? m <;> simp

/-! ### Counts of primary contexts -/

theorem retains_of_get? {d : Device} {p : Primary} (hp : s.primaries.get? d.ordinal = some p) :
    s.retains d = p.retains := by
  rw [State.retains, hp]
  rfl

theorem retains_of_get?_eq_none {d : Device} (hp : s.primaries.get? d.ordinal = none) :
    s.retains d = 0 := by
  rw [State.retains, hp]
  rfl

theorem retains_of_insert {d : Device} {p : Primary}
    (h : s'.primaries = s.primaries.insert d.ordinal p) (d' : Device) :
    s'.retains d' = if d = d' then p.retains else s.retains d' := by
  obtain ⟨d⟩ := d
  obtain ⟨d'⟩ := d'
  rw [State.retains, h, Table.get?_insert]
  by_cases hd : d = d'
  · simp [hd]
  · simp [hd, Ne.symm hd, State.retains]

theorem retains_of_erase {d : Device} (h : s'.primaries = s.primaries.erase d.ordinal)
    (d' : Device) : s'.retains d' = if d = d' then 0 else s.retains d' := by
  obtain ⟨d⟩ := d
  obtain ⟨d'⟩ := d'
  rw [State.retains, h, Table.get?_erase]
  by_cases hd : d = d'
  · simp [hd]
  · simp [hd, Ne.symm hd, State.retains]

/-! ### Contexts -/

theorem init_eq_ok_iff {flags : Nat} {u : Unit} :
    s.init flags = (.ok u, s') ↔
      flags = 0 ∧ s.deviceCount ≠ 0 ∧ s' = { s with initialized := true } := by
  unfold init
  split
  · simp_all
  · split <;> simp_all [eq_comm]

theorem retainPrimary_eq_ok_iff {d : Device} {c : Handle} :
    s.retainPrimary d = (.ok c, s') ↔ s.initialized = true ∧ s.HasDevice d ∧
      ((∃ p, s.primaries.get? d.ordinal = some p ∧ c = p.context ∧ s' = { s with
          primaries := s.primaries.insert d.ordinal { p with retains := p.retains + 1 } }) ∨
        (s.primaries.get? d.ordinal = none ∧ c = s.lastHandle + handleStep ∧ s' = { s with
          lastHandle := s.lastHandle + handleStep
          contexts := s.contexts.insert (s.lastHandle + handleStep) ⟨d, true⟩
          primaries := s.primaries.insert d.ordinal ⟨s.lastHandle + handleStep, 1⟩ })) := by
  unfold retainPrimary
  simp only [provided_eq_ok_iff, requireDevice_eq_ok_iff, exists_const, and_assoc]
  refine and_congr_right fun _ => and_congr_right fun _ => ?_
  cases s.primaries.get? d.ordinal <;> simp [eq_comm, withHandle]

theorem releasePrimary_eq_ok_iff {d : Device} {u : Unit} :
    s.releasePrimary d = (.ok u, s') ↔ s.initialized = true ∧ s.HasDevice d ∧
      ∃ p, s.primaries.get? d.ordinal = some p ∧
        ((1 < p.retains ∧ s' = { s with
            primaries := s.primaries.insert d.ordinal { p with retains := p.retains - 1 } }) ∨
          (p.retains ≤ 1 ∧ s' = { s.dropContext p.context with
            primaries := s.primaries.erase d.ordinal })) := by
  unfold releasePrimary
  simp only [provided_eq_ok_iff, requireDevice_eq_ok_iff, exists_const, and_assoc]
  refine and_congr_right fun _ => and_congr_right fun _ => ?_
  cases s.primaries.get? d.ordinal with
  | none => simp
  | some p =>
    dsimp only
    by_cases h : p.retains > 1
    · simp [h, Nat.not_le.2 h, eq_comm]
    · simp [h, Nat.not_lt.1 h, eq_comm]

theorem setCurrentContext_eq_ok_iff {c : Handle} {u : Unit} :
    s.setCurrentContext t c = (.ok u, s') ↔ s.initialized = true ∧
      ((c = 0 ∧ s' = s.withStack t (s.stackOf t).tail) ∨
        (c ≠ 0 ∧ c ∈ s.contexts.keys ∧ s' = s.withStack t (c :: (s.stackOf t).tail))) := by
  unfold setCurrentContext
  simp only [provided_eq_ok_iff, requireInit_eq_ok_iff, exists_const, Table.contains_iff,
    ← Table.mem_keys]
  refine and_congr_right fun _ => ?_
  by_cases hc : c = 0
  · simp [hc, eq_comm]
  · by_cases hl : c ∈ s.contexts.keys <;> simp [hc, hl, eq_comm]

theorem createContext_eq_ok_iff {flags : Nat} {d : Device} {c : Handle} :
    s.createContext t flags d = (.ok c, s') ↔ s.initialized = true ∧ s.HasDevice d ∧
      ContextFlags.valid flags = true ∧ c = s.lastHandle + handleStep ∧
      s' = { s.withStack t ((s.lastHandle + handleStep) :: s.stackOf t) with
        lastHandle := s.lastHandle + handleStep
        contexts := s.contexts.insert (s.lastHandle + handleStep) ⟨d, false⟩ } := by
  unfold createContext
  simp only [provided_eq_ok_iff, requireDevice_eq_ok_iff, exists_const, and_assoc]
  refine and_congr_right fun _ => and_congr_right fun _ => ?_
  by_cases hv : ContextFlags.valid flags = true
  · simp [hv, withHandle, withStack, eq_comm]
  · simp [hv]

theorem destroyContext_eq_ok_iff {c : Handle} {u : Unit} :
    s.destroyContext t c = (.ok u, s') ↔ s.initialized = true ∧
      (∃ d, s.contexts.get? c = some ⟨d, false⟩) ∧
      s' = if s.top t = some c then (s.dropContext c).withStack t (s.stackOf t).tail
        else s.dropContext c := by
  unfold destroyContext
  simp only [provided_eq_ok_iff, requireInit_eq_ok_iff, exists_const]
  refine and_congr_right fun _ => ?_
  split
  · rename_i d h
    simp [h, eq_comm, top, dropContext]
  · rename_i h
    simp only [Prod.mk.injEq, reduceCtorEq, false_and, false_iff, not_and, forall_exists_index]
    intro d hd
    exact absurd hd (h d)

/-! ### Modules -/

theorem loadImage_eq_ok_iff {image : Bytes} {m : Handle} :
    s.loadImage t image = (.ok m, s') ↔ ∃ c text globals cursor, s.current t = .ok c ∧
      imageText? image = some text ∧ Ptx.isModule text = true ∧
      place s.nextAddress .empty (Ptx.symbols text).globals = (some globals, cursor) ∧
      (m, s') = addModule { s with nextAddress := cursor } c globals (Ptx.symbols text).entries := by
  unfold loadImage
  constructor
  · intro h
    split at h
    · simp at h
    rename_i c hc
    split at h
    · simp at h
    rename_i text ht
    split at h
    · rename_i hm
      split at h
      · simp at h
      · rename_i globals cursor hp
        simp only [Prod.mk.injEq, Except.ok.injEq] at h
        exact ⟨c, text, globals, cursor, hc, ht, hm, hp, by rw [← h.1, ← h.2]⟩
    · simp at h
  · rintro ⟨c, text, globals, cursor, hc, ht, hm, hp, h⟩
    simp [hc, ht, hm, hp, ← h]

/-- A context is never missing for want of device memory. -/
theorem current_ne_outOfMemory : s.current t ≠ .error .outOfMemory := by
  unfold current requireInit
  cases s.initialized with
  | false => rintro ⟨⟩
  | true =>
    cases s.top t with
    | none => rintro ⟨⟩
    | some c =>
      simp only [if_true, bind, Except.bind]
      split <;> rintro ⟨⟩

/-- A load that fails leaves the books alone, unless it fails for want of device memory: then the
memory that was given out before stays given out. -/
theorem loadImage_eq_error_cases {image : Bytes} {e : Status}
    (h : s.loadImage t image = (.error e, s')) :
    (e ≠ .outOfMemory ∧ s' = s) ∨ e = .outOfMemory ∧ ∃ c text cursor, s.current t = .ok c ∧
      imageText? image = some text ∧
      place s.nextAddress .empty (Ptx.symbols text).globals = (none, cursor) ∧
      s' = { s with nextAddress := cursor } := by
  unfold loadImage at h
  split at h
  · rename_i e' hc
    obtain ⟨rfl, rfl⟩ : e' = e ∧ s = s' := by simpa using h
    exact Or.inl ⟨fun he => current_ne_outOfMemory (he ▸ hc), rfl⟩
  rename_i c hc
  have invalid : (Except.error .invalidImage, s) = (Except.error (α := Handle) e, s') →
      e ≠ .outOfMemory ∧ s' = s := by
    simp only [Prod.mk.injEq, Except.error.injEq]
    rintro ⟨rfl, rfl⟩
    exact ⟨by decide, rfl⟩
  split at h
  · exact Or.inl (invalid h)
  rename_i text ht
  split at h
  · split at h
    · rename_i cursor hp
      simp only [Prod.mk.injEq, Except.error.injEq] at h
      exact Or.inr ⟨h.1.symm, c, text, cursor, hc, ht, hp, h.2.symm⟩
    · simp at h
  · exact Or.inl (invalid h)

/-- Loading from a file fails without a trace or loads what the file holds. -/
theorem loadFile_cases (s : State) (t : ThreadId) (files : FileTree) (path : Path) :
    (∃ e, e ≠ .outOfMemory ∧ s.loadFile t files path = (.error e, s)) ∨
      ∃ image, files.read path = .ok image ∧ s.loadFile t files path = s.loadImage t image := by
  unfold loadFile
  split
  · exact Or.inl ⟨_, by decide, rfl⟩
  · split
    · rename_i e hc
      exact Or.inl ⟨e, fun he => current_ne_outOfMemory (he ▸ hc), rfl⟩
    · split
      · exact Or.inl ⟨_, by decide, rfl⟩
      · rename_i image hr
        exact Or.inr ⟨image, hr, rfl⟩

/-- The kernels that are listed for a module go before it is found whether the module was there. -/
theorem unloadModule_eq (up : s.initialized = true) (m : Handle) : s.unloadModule m =
    (if m ∈ s.modules.keys then .ok () else .error .invalidHandle, (s.dropModule m).2) := by
  have listed : m ∈ s.modules.keys ↔ s.modules.contains m = true := Table.mem_keys_iff
  unfold unloadModule dropModule
  rw [requireInit_eq_ok_iff (u := ()).2 up]
  cases h : s.modules.contains m with
  | false => rw [if_neg (by simp [listed, h])]; rfl
  | true => rw [if_pos (listed.2 h)]; rfl

theorem unloadModule_eq_ok_iff {m : Handle} {u : Unit} :
    s.unloadModule m = (.ok u, s') ↔ s.initialized = true ∧ m ∈ s.modules.keys ∧
      s' = (s.dropModule m).2 := by
  cases up : s.initialized with
  | false => simp [unloadModule, requireInit, provided, up]
  | true =>
    rw [unloadModule_eq up]
    by_cases hm : m ∈ s.modules.keys <;> simp [hm, eq_comm]

/-- An unload is refused without a trace if the driver was not started, and after the kernels of the
handle are gone if no module has it. -/
theorem unloadModule_eq_error_cases {m : Handle} {e : Status}
    (h : s.unloadModule m = (.error e, s')) :
    s' = s ∨ s.initialized = true ∧ m ∉ s.modules.keys ∧ s' = (s.dropModule m).2 := by
  cases up : s.initialized with
  | false =>
    unfold unloadModule requireInit at h
    rw [up] at h
    exact Or.inl (Prod.mk.inj h).2.symm
  | true =>
    rw [unloadModule_eq up] at h
    refine Or.inr ⟨rfl, fun hm => ?_, (Prod.mk.inj h).2.symm⟩
    rw [if_pos hm] at h
    cases h

/-! ### Launches -/

theorem launch_eq_ok_iff {request : LaunchRequest} {u : Unit} :
    s.launch t request = (.ok u, s') ↔ ∃ c f buffer, s.current t = .ok c ∧
      s.functions.get? request.function = some f ∧
      (s.modules.get? f.module).map (·.context) = some c ∧
      request.config.grid.volume ≠ 0 ∧ request.config.block.volume ≠ 0 ∧
      request.config.block.volume ≤ maxThreadsPerBlock ∧
      ¬ (request.parameters.isSome ∧ request.options.isSome) ∧ bufferBytes request = .ok buffer ∧
      s' = { s with launches := s.launches ++ [{
        function := request.function
        name := f.name
        config := request.config
        parameterCount := (request.parameters.map List.length).getD 0
        bufferBytes := buffer }] } := by
  unfold launch
  simp only [provided_eq_ok_iff]
  constructor
  · rintro ⟨c, hc, h⟩
    split at h
    · simp at h
    rename_i f hf
    split at h
    · simp at h
    rename_i hm
    split at h
    · simp at h
    rename_i hv
    split at h
    · simp at h
    rename_i hp
    obtain ⟨buffer, hb, h⟩ := provided_eq_ok_iff.1 h
    simp only [not_or, Nat.not_lt] at hv
    exact ⟨c, f, buffer, hc, hf, Classical.not_not.1 hm, hv.1, hv.2.1, hv.2.2, hp, hb,
      (Prod.mk.inj h).2.symm⟩
  · rintro ⟨c, f, buffer, hc, hf, hm, hg, hb, hle, hp, hbuf, rfl⟩
    refine ⟨c, hc, ?_⟩
    have hv : ¬ (request.config.grid.volume = 0 ∨ request.config.block.volume = 0 ∨
        request.config.block.volume > maxThreadsPerBlock) := by
      simp only [not_or, Nat.not_lt]
      exact ⟨hg, hb, hle⟩
    simp only [hf, hm, hv, hp, hbuf, ne_eq, not_true_eq_false, if_false]
    rfl

/-! ### Link sessions -/

theorem createLink_eq_ok_iff {l : Handle} :
    s.createLink t = (.ok l, s') ↔ (∃ c, s.current t = .ok c) ∧ l = s.lastHandle + handleStep ∧
      s' = { s with
        lastHandle := s.lastHandle + handleStep
        links := s.links.insert (s.lastHandle + handleStep) [] } := by
  unfold createLink
  simp only [provided_eq_ok_iff, withHandle, Prod.mk.injEq, Except.ok.injEq]
  constructor
  · rintro ⟨c, hc, hl, hs⟩
    exact ⟨⟨c, hc⟩, hl.symm, hs.symm⟩
  · rintro ⟨⟨c, hc⟩, rfl, rfl⟩
    exact ⟨c, hc, rfl, rfl⟩

theorem addLinkInput_eq_ok_iff {l : Handle} {kind : ImageKind} {data name : Bytes} {u : Unit} :
    s.addLinkInput l kind data name = (.ok u, s') ↔ s.initialized = true ∧
      ∃ inputs text, s.links.get? l = some inputs ∧ data ≠ [] ∧ imageText? data = some text ∧
        Ptx.isModule text = true ∧ s' = { s with
          links := s.links.insert l (inputs ++ [⟨kind, Utf8.decodeLossy name, text⟩]) } := by
  unfold addLinkInput
  simp only [provided_eq_ok_iff, link_eq_ok_iff, and_assoc, List.isEmpty_iff]
  constructor
  · rintro ⟨inputs, hi, hl, h⟩
    refine ⟨hi, ?_⟩
    split at h
    · simp at h
    rename_i hd
    split at h
    · simp at h
    rename_i text ht
    split at h
    · rename_i hm
      exact ⟨inputs, text, hl, hd, ht, hm, (Prod.mk.inj h).2.symm⟩
    · simp at h
  · rintro ⟨hi, inputs, text, hl, hd, ht, hm, rfl⟩
    exact ⟨inputs, hi, hl, by simp [hd, ht, hm]⟩

theorem completeLink_eq_ok_iff {l : Handle} {image : Bytes} :
    s.completeLink l = .ok image ↔ s.initialized = true ∧
      ∃ inputs, s.links.get? l = some inputs ∧ inputs ≠ [] ∧ (linkedEntries inputs).Nodup ∧
        image = Utf8.encode (linkedText inputs) := by
  unfold completeLink
  simp only [bind_eq_ok_iff, link_eq_ok_iff, and_assoc, List.isEmpty_iff]
  constructor
  · rintro ⟨inputs, hi, hl, h⟩
    refine ⟨hi, inputs, hl, ?_⟩
    split at h
    · simp at h
    rename_i hne
    split at h
    · exact ⟨hne, ‹_›, (pure_eq_ok_iff.1 h).symm⟩
    · simp at h
  · rintro ⟨hi, inputs, hl, hne, hd, rfl⟩
    exact ⟨inputs, hi, hl, by simp [hne, hd, pure_eq_ok_iff]⟩

theorem destroyLink_eq_ok_iff {l : Handle} {u : Unit} :
    s.destroyLink l = (.ok u, s') ↔ s.initialized = true ∧ l ∈ s.links.keys ∧
      s' = { s with links := s.links.erase l } := by
  unfold destroyLink
  simp only [provided_eq_ok_iff, link_eq_ok_iff, Table.mem_keys]
  constructor
  · rintro ⟨inputs, ⟨hi, hl⟩, he⟩
    exact ⟨hi, ⟨inputs, hl⟩, (Prod.mk.inj he).2.symm⟩
  · rintro ⟨hi, ⟨inputs, hl⟩, rfl⟩
    exact ⟨inputs, ⟨hi, hl⟩, rfl⟩

/-! ### When they fail -/

section Keeps

variable (s) (t)

theorem keeps_init (flags : Nat) : Keeps s (s.init flags) := by
  unfold init
  split
  · exact .error _
  · split
    · exact .error _
    · exact .ok _

theorem keeps_retainPrimary (d : Device) : Keeps s (s.retainPrimary d) := by
  refine .provided fun _ => ?_
  cases s.primaries.get? d.ordinal with
  | none => exact .ok _
  | some p => exact .ok _

theorem keeps_releasePrimary (d : Device) : Keeps s (s.releasePrimary d) := by
  refine .provided fun _ => ?_
  cases s.primaries.get? d.ordinal with
  | none => exact .error _
  | some p =>
    dsimp only
    split
    · exact .ok _
    · exact .ok _

theorem keeps_setCurrentContext (c : Handle) : Keeps s (s.setCurrentContext t c) := by
  refine .provided fun _ => ?_
  split
  · exact .ok _
  · split
    · exact .ok _
    · exact .error _

theorem keeps_createContext (flags : Nat) (d : Device) : Keeps s (s.createContext t flags d) := by
  refine .provided fun _ => ?_
  split
  · exact .ok _
  · exact .error _

theorem keeps_destroyContext (c : Handle) : Keeps s (s.destroyContext t c) := by
  refine .provided fun _ => ?_
  split
  · exact .ok _
  · exact .error _

theorem keeps_createLink : Keeps s (s.createLink t) := .provided fun _ => .ok _

theorem keeps_addLinkInput (l : Handle) (kind : ImageKind) (data name : Bytes) :
    Keeps s (s.addLinkInput l kind data name) := by
  refine .provided fun inputs => ?_
  split
  · exact .error _
  · split
    · exact .error _
    · split
      · exact .ok _
      · exact .error _

theorem keeps_destroyLink (l : Handle) : Keeps s (s.destroyLink l) := .provided fun _ => .ok _

theorem keeps_launch (request : LaunchRequest) : Keeps s (s.launch t request) := by
  refine .provided fun context => ?_
  cases s.functions.get? request.function with
  | none => exact .error _
  | some f =>
    dsimp only
    split
    · exact .error _
    · split
      · exact .error _
      · split
        · exact .error _
        · exact .provided fun _ => .ok _

end Keeps

end State

end GpuDriver.InProcess
