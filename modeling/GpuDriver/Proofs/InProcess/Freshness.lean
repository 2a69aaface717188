import GpuDriver.Proofs.InProcess.Integrity
import GpuDriver.Proofs.InProcess.Memory
import GpuDriver.Proofs.InProcess.Stack

/-!
# Handles are never given out again

Every event gives out handles above all that were given out before, in ascending order, and what is alive
was given out (`GivesOut`). So no handle of a run is given out twice, for things of whatever kinds; and a
handle whose thing is gone, with its context or module or on its own, names nothing from then on. Every
call that is given such a handle fails and leaves the books as they are (`handles_never_reused`).
-/

namespace GpuDriver

namespace InProcess

open State

/-! ### What is given out -/

/-- The handles that a successful call gives out from the books `s`, in order: a new context, link
session or module, and behind a module one for each of the kernels `entries` of its text. Retaining a
primary context that is there already gives out nothing. -/
def Success.issues (s : State) (entries : List String) : Success → List Handle
  | ⟨.createContext _ _, h⟩ | ⟨.createLink, h⟩ => [h]
  | ⟨.retainPrimary d, h⟩ => if (s.primaries.get? d.ordinal).isSome then [] else [h]
  | ⟨.loadModule _, m⟩ | ⟨.loadModuleData _, m⟩ => m :: (numbered m entries).map Prod.fst
  | _ => []

/-- The kernels of the text that an event would load. -/
def Event.entries (e : Event) : List String :=
  (e.text?.map fun text => (Ptx.symbols text).entries).getD []

/-- The handles that an event gives out. -/
def State.issued (s : State) (e : Event) : List Handle :=
  ((s.success? e.thread e).map (·.issues s e.entries)).getD []

/-- The handles that a run gives out, in order. -/
def State.issuedIn (s : State) : List Event → List Handle
  | [] => []
  | e :: es => s.issued e ++ (s.after e).issuedIn es

/-- Between `s` and `s'` the handles `hs` are given out. -/
structure GivesOut (s s' : State) (hs : List Handle) : Prop where
  /-- Handles go up. -/
  mono : s.lastHandle ≤ s'.lastHandle
  /-- A handle that is given out is new. -/
  new (h : Handle) (hh : h ∈ hs) : s.lastHandle < h ∧ h ≤ s'.lastHandle
  /-- Each is above those before it. -/
  ascending : hs.Pairwise (· < ·)
  /-- Nothing else becomes alive. -/
  alive (k : Kind) (h : Handle) (hh : h ∈ s'.keysOf k) : h ∈ s.keysOf k ∨ h ∈ hs

variable {s s' : State} {t : ThreadId} {call : Driver.Call} {e : Event} {h : Handle} {k : Kind}

namespace GivesOut

theorem refl (s : State) : GivesOut s s [] :=
  ⟨Nat.le_refl _, fun _ hh => absurd hh List.not_mem_nil, .nil, fun _ _ => Or.inl⟩

theorem trans {s'' : State} {hs hs' : List Handle} (first : GivesOut s s' hs)
    (second : GivesOut s' s'' hs') : GivesOut s s'' (hs ++ hs') where
  mono := Nat.le_trans first.mono second.mono
  new h hh := by
    rcases List.mem_append.1 hh with hh | hh
    · exact ⟨(first.new h hh).1, Nat.le_trans (first.new h hh).2 second.mono⟩
    · exact ⟨Nat.lt_of_le_of_lt first.mono (second.new h hh).1, (second.new h hh).2⟩
  ascending := by
    refine List.pairwise_append.2 ⟨first.ascending, second.ascending, fun a ha b hb => ?_⟩
    exact Nat.lt_of_le_of_lt (first.new a ha).2 (second.new b hb).1
  alive k h hh := by
    rcases second.alive k h hh with hh | hh
    · exact (first.alive k h hh).imp_right (List.mem_append_left _)
    · exact Or.inr (List.mem_append_right _ hh)

/-- A change that leaves the last handle as it was gives out nothing. -/
theorem of_change (hc : Change t s call s') (hl : s'.lastHandle = s.lastHandle) :
    GivesOut s s' [] := by
  obtain ⟨_, up, issued⟩ := hc.issued
  refine ⟨up, fun _ hh => absurd hh List.not_mem_nil, .nil, fun k h hh => Or.inl ?_⟩
  rcases issued k h hh with old | ⟨above, below, -⟩
  · exact old
  · lia

/-- The next handle is given out, for a thing of the kind `k`. -/
theorem of_one (k : Kind) (hl : s'.lastHandle = s.lastHandle + handleStep)
    (hnew : ∀ h, h ∈ s'.keysOf k → h = s.lastHandle + handleStep ∨ h ∈ s.keysOf k)
    (hold : ∀ k', k' ≠ k → s'.keysOf k' = s.keysOf k') :
    GivesOut s s' [s.lastHandle + handleStep] := by
  have pos := handleStep_pos
  refine ⟨by lia, fun h hh => ?_, List.pairwise_singleton _ _, fun k' h hh => ?_⟩
  · obtain rfl := List.mem_singleton.1 hh
    exact ⟨by lia, Nat.le_of_eq hl.symm⟩
  · rcases Decidable.em (k' = k) with rfl | hk
    · exact (hnew h hh).symm.imp_right List.mem_singleton.2
    · exact Or.inl (hold k' hk ▸ hh)

end GivesOut

theorem pairwise_numbered (last : Handle) (names : List String) :
    ((numbered last names).map Prod.fst).Pairwise (· < ·) := by
  induction names generalizing last with
  | nil => exact .nil
  | cons name rest ih =>
    refine List.pairwise_cons.2 ⟨fun h hh => ?_, ih _⟩
    obtain ⟨x, hx, rfl⟩ := List.mem_map.1 hh
    exact (mem_numbered hx).1

/-- A module gets the next handle, and its kernels those after it. -/
theorem givesOut_addModule (s : State) (context : Handle) (globals : Table String Allocation)
    (entries : List String) :
    GivesOut s (addModule s context globals entries).2
      ((s.lastHandle + handleStep) ::
        (numbered (s.lastHandle + handleStep) entries).map Prod.fst) := by
  have pos := handleStep_pos
  have kernel : ∀ h ∈ (numbered (s.lastHandle + handleStep) entries).map Prod.fst,
      s.lastHandle + handleStep < h ∧
        h ≤ (addModule s context globals entries).2.lastHandle := by
    intro h hh
    obtain ⟨x, hx, rfl⟩ := List.mem_map.1 hh
    exact ⟨(mem_numbered hx).1, (mem_numbered hx).2.1⟩
  refine ⟨(issued_addModule s context globals entries).1, fun h hh => ?_,
    List.pairwise_cons.2 ⟨fun h hh => (kernel h hh).1, pairwise_numbered _ _⟩, fun k h hh => ?_⟩
  · rcases List.mem_cons.1 hh with rfl | hh
    · exact ⟨Nat.lt_add_of_pos_right pos, Nat.le_add_right _ _⟩
    · exact ⟨Nat.lt_trans (Nat.lt_add_of_pos_right pos) (kernel h hh).1, (kernel h hh).2⟩
  · cases k with
    | context | link => exact Or.inl hh
    | module =>
      refine (Table.mem_keys_insert.1 hh).symm.imp_right ?_
      rintro rfl
      exact List.mem_cons_self
    | function =>
      refine (Table.mem_keys_foldl_insert.1 hh).symm.imp_right ?_
      rintro ⟨x, hx, rfl⟩
      exact List.mem_cons_of_mem _ (List.mem_map_of_mem hx)

/-! ### Events and runs -/

theorem issued_of_failed {status : Status} (failed : s.reply e = .error status) :
    s.issued e = [] := by
  rw [issued, success?, if_pos rfl, failed]
  rfl

theorem issued_of_ok {value : e.call.Value} (ok : s.reply e = .ok value) :
    s.issued e = Success.issues s e.entries ⟨e.call, value⟩ := by
  rw [issued, success?, if_pos rfl, ok]
  rfl

/-- A call that leaves no trace when it fails gives out what its success gives out. -/
theorem givesOut_kept {files : FileTree} {c : Driver.Call} (kept : Keeps s (step t files c s))
    (h : ∀ a s', step t files c s = (.ok a, s') →
      GivesOut s s' (Success.issues s (⟨t, files, c⟩ : Event).entries ⟨c, a⟩)) :
    GivesOut s (s.after ⟨t, files, c⟩) (s.issued ⟨t, files, c⟩) := by
  rcases answered : step t files c s with ⟨status | a, s'⟩
  · rw [issued_of_failed (e := ⟨t, files, c⟩) (congrArg Prod.fst answered), after, answered,
      kept status s' answered]
    exact .refl s
  · rw [issued_of_ok (e := ⟨t, files, c⟩) (congrArg Prod.fst answered), after, answered]
    exact h a s' answered

/-- A call that gives out nothing when it succeeds gives out nothing, if it leaves the last handle as it
was. -/
theorem givesOut_nothing (quiet : ∀ value, Success.issues s e.entries ⟨e.call, value⟩ = [])
    (hl : (s.after e).lastHandle = s.lastHandle) : GivesOut s (s.after e) (s.issued e) := by
  have hi : s.issued e = [] := by
    cases hr : s.reply e with
    | error status => exact issued_of_failed hr
    | ok value => exact (issued_of_ok hr).trans (quiet value)
  exact hi ▸ .of_change (change_after s e) hl

/-- So does a call that leaves no trace when it fails and the last handle when it succeeds. -/
theorem givesOut_quiet {files : FileTree} {c : Driver.Call} (kept : Keeps s (step t files c s))
    (quiet : ∀ value, Success.issues s (⟨t, files, c⟩ : Event).entries ⟨c, value⟩ = [])
    (h : ∀ a s', step t files c s = (.ok a, s') → s'.lastHandle = s.lastHandle) :
    GivesOut s (s.after ⟨t, files, c⟩) (s.issued ⟨t, files, c⟩) :=
  givesOut_nothing quiet (kept.elim (P := fun s' => s'.lastHandle = s.lastHandle) rfl h)

theorem lastHandle_releasePrimary {d : Device} {u : Unit}
    (h : s.releasePrimary d = (.ok u, s')) : s'.lastHandle = s.lastHandle := by
  obtain ⟨-, -, p, -, ⟨-, rfl⟩ | ⟨-, rfl⟩⟩ := releasePrimary_eq_ok_iff.1 h <;> rfl

theorem lastHandle_setCurrentContext {c : Handle} {u : Unit}
    (h : s.setCurrentContext t c = (.ok u, s')) : s'.lastHandle = s.lastHandle := by
  obtain ⟨-, ⟨-, rfl⟩ | ⟨-, -, rfl⟩⟩ := setCurrentContext_eq_ok_iff.1 h <;> rfl

theorem lastHandle_destroyContext {c : Handle} {u : Unit}
    (h : s.destroyContext t c = (.ok u, s')) : s'.lastHandle = s.lastHandle := by
  obtain ⟨-, -, rfl⟩ := destroyContext_eq_ok_iff.1 h
  split <;> rfl

theorem lastHandle_unloadModule (s : State) (m : Handle) :
    (s.unloadModule m).2.lastHandle = s.lastHandle := by
  rcases h : s.unloadModule m with ⟨e | u, s'⟩
  · obtain rfl | ⟨-, -, rfl⟩ := unloadModule_eq_error_cases h <;> rfl
  · obtain ⟨-, -, rfl⟩ := unloadModule_eq_ok_iff.1 h
    rfl

/-- A module that is loaded comes with its kernels. -/
theorem givesOut_loadImage {image : Bytes} {m : Handle} (read : e.text? = imageText? image)
    (h : s.loadImage t image = (.ok m, s')) :
    GivesOut s s' (m :: (numbered m e.entries).map Prod.fst) := by
  obtain ⟨c, text, globals, cursor, -, read', -, -, hm⟩ := loadImage_eq_ok_iff.1 h
  have entries : e.entries = (Ptx.symbols text).entries := by
    simp [Event.entries, read, read']
  obtain ⟨rfl, rfl⟩ := Prod.mk.inj hm
  rw [entries]
  exact { givesOut_addModule { s with nextAddress := cursor } c globals _ with }

/-- A load gives out a module and its kernels, or fails and gives out nothing. -/
theorem givesOut_load (load : e.call.loads = true) : GivesOut s (s.after e) (s.issued e) := by
  cases hr : s.reply e with
  | error status =>
    rw [issued_of_failed hr]
    refine .of_change (change_after s e) ?_
    rw [after_of_failed_load hr load]
  | ok value =>
    rw [issued_of_ok hr]
    obtain ⟨t, files, c⟩ := e
    cases c with
    | loadModuleData image =>
      exact givesOut_loadImage rfl
        (show s.loadImage t image = (.ok value, s.after ⟨t, files, .loadModuleData image⟩) from
          Prod.ext hr rfl)
    | loadModule path =>
      have loaded : s.loadFile t files path = (.ok value, s.after ⟨t, files, .loadModule path⟩) :=
        Prod.ext hr rfl
      obtain ⟨status, -, h⟩ | ⟨image, found, h⟩ := loadFile_cases s t files path
      · cases h.symm.trans loaded
      · exact givesOut_loadImage (Event.text?_loadModule found) (h.symm.trans loaded)
    | _ => cases load

/-- **What an event gives out.** -/
theorem givesOut_after (s : State) (e : Event) : GivesOut s (s.after e) (s.issued e) := by
  obtain ⟨t, files, c⟩ := e
  cases c with
  | retainPrimary d =>
    refine givesOut_kept (keeps_retainPrimary s d) fun c s' h => ?_
    obtain ⟨-, -, ⟨p, hp, -, rfl⟩ | ⟨hp, rfl, rfl⟩⟩ := retainPrimary_eq_ok_iff.1 h
    · simp only [Success.issues, hp, Option.isSome_some, if_true]
      exact .of_change (t := t) (change_retainPrimary h) rfl
    · simp only [Success.issues, hp, Option.isSome_none, Bool.false_eq_true, if_false]
      refine .of_one .context rfl (fun h => Table.mem_keys_insert.1) fun k hk => ?_
      cases k with
      | context => exact absurd rfl hk
      | module | function | link => rfl
  | createContext flags d =>
    refine givesOut_kept (keeps_createContext s t flags d) fun c s' h => ?_
    obtain ⟨-, -, -, rfl, rfl⟩ := createContext_eq_ok_iff.1 h
    refine .of_one .context rfl (fun h => Table.mem_keys_insert.1) fun k hk => ?_
    cases k with
    | context => exact absurd rfl hk
    | module | function | link => rfl
  | createLink =>
    refine givesOut_kept (keeps_createLink s t) fun l s' h => ?_
    obtain ⟨-, rfl, rfl⟩ := createLink_eq_ok_iff.1 h
    refine .of_one .link rfl (fun h => Table.mem_keys_insert.1) fun k hk => ?_
    cases k with
    | link => exact absurd rfl hk
    | context | module | function => rfl
  | loadModule | loadModuleData => exact givesOut_load rfl
  | init flags =>
    refine givesOut_quiet (keeps_init s flags) (fun _ => rfl) fun _ s' h => ?_
    obtain ⟨-, -, rfl⟩ := init_eq_ok_iff.1 h
    rfl
  | releasePrimary d =>
    exact givesOut_quiet (keeps_releasePrimary s d) (fun _ => rfl) fun _ _ => lastHandle_releasePrimary
  | setCurrentContext c =>
    exact givesOut_quiet (keeps_setCurrentContext s t c) (fun _ => rfl) fun _ _ =>
      lastHandle_setCurrentContext
  | destroyContext c =>
    exact givesOut_quiet (keeps_destroyContext s t c) (fun _ => rfl) fun _ _ =>
      lastHandle_destroyContext
  | addLinkInput l kind data name =>
    refine givesOut_quiet (keeps_addLinkInput s l kind data name) (fun _ => rfl) fun _ s' h => ?_
    obtain ⟨-, inputs, text, -, -, -, -, rfl⟩ := addLinkInput_eq_ok_iff.1 h
    rfl
  | destroyLink l =>
    refine givesOut_quiet (keeps_destroyLink s l) (fun _ => rfl) fun _ s' h => ?_
    obtain ⟨-, -, rfl⟩ := destroyLink_eq_ok_iff.1 h
    rfl
  | unloadModule m => exact givesOut_nothing (fun _ => rfl) (lastHandle_unloadModule s m)
  | launch request =>
    refine givesOut_quiet (keeps_launch s t request) (fun _ => rfl) fun _ s' h => ?_
    obtain ⟨_, _, _, -, -, -, -, -, -, -, -, rfl⟩ := launch_eq_ok_iff.1 h
    rfl
  | version | deviceCount | device | deviceAttribute | currentContext | currentDevice
  | completeLink | function | global | errorName | errorText =>
    exact givesOut_nothing (fun _ => rfl) rfl

/-- **What a run gives out.** -/
theorem givesOut_run (s : State) (es : List Event) : GivesOut s (s.run es) (s.issuedIn es) := by
  induction es generalizing s with
  | nil => exact .refl s
  | cons e es ih => exact (givesOut_after s e).trans (ih (s.after e))

/-! ### Handles whose thing is gone -/

/-- What has been given out and names nothing of a kind will not name anything of it. -/
theorem mem_keysOf_of_run {es : List Event} (old : h ≤ s.lastHandle)
    (alive : h ∈ (s.run es).keysOf k) : h ∈ s.keysOf k := by
  rcases (givesOut_run s es).alive k h alive with alive | given
  · exact alive
  · exact absurd ((givesOut_run s es).new h given).1 (Nat.not_lt.2 old)

end InProcess

end GpuDriver
