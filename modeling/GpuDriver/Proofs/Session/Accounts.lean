import GpuDriver.Proofs.Owned.Accounts
import GpuDriver.Proofs.Table
import GpuDriver.Session.Run

/-!
# Runs of a session

A run of a session is a list of happenings: operations on any threads, questions, and changes of what is
around the library. An account that every call keeps (`Accounts`) holds after every run between the objects
in the slots and the native state (`Session.run_held`), provided that nobody forgets an object.
-/

namespace GpuDriver

open Owned

/-! ### The values of a table -/

namespace Table

variable {κ ν : Type} [DecidableEq κ]

/-- The values, each as often as there are keys for it. -/
def values (t : Table κ ν) : Multiset ν := (t.entries.map Prod.snd : List ν)

omit [DecidableEq κ] in
@[simp] theorem values_empty : (empty : Table κ ν).values = 0 := rfl

theorem values_insert (t : Table κ ν) (k : κ) (v : ν) :
    (t.insert k v).values = {v} + (t.erase k).values := rfl

theorem perm_of_lookup {k : κ} {v : ν} :
    ∀ {l : List (κ × ν)}, (l.map Prod.fst).Nodup → l.lookup k = some v →
      l.Perm ((k, v) :: l.filter fun e => e.1 ≠ k)
  | (a, x) :: l, hn, h => by
    obtain ⟨ha, hl⟩ := List.nodup_cons.1 hn
    by_cases hk : k = a
    · subst hk
      obtain rfl : x = v := by simpa using h
      have absent : l.filter (fun e => e.1 ≠ k) = l := by
        refine List.filter_eq_self.2 fun e he => ?_
        simpa using fun heq : e.1 = k => ha (List.mem_map.2 ⟨e, he, heq⟩)
      rw [List.filter_cons_of_neg (by simp), absent]
    · have hb : (k == a) = false := by simpa using hk
      have found : l.lookup k = some v := by simpa [List.lookup_cons, hb] using h
      rw [List.filter_cons_of_pos (by simpa using fun h : a = k => hk h.symm)]
      exact ((perm_of_lookup hl found).cons (a, x)).trans (List.Perm.swap _ _ _)

theorem values_of_get? {t : Table κ ν} {k : κ} {v : ν} (h : t.get? k = some v) :
    t.values = {v} + (t.erase k).values :=
  Multiset.coe_eq_coe.2 ((perm_of_lookup t.nodup_keys h).map Prod.snd)

end Table

/-! ### Objects -/

namespace Session

open Act

variable {σ : Type} {p : Platform σ} {t : ThreadId} {Held : Multiset Object → σ → Prop}

/-- The owned objects that there are. -/
def objects (s : Session σ) : Multiset Object := s.slots.values

section

variable (h : Accounts p t Held)
include h

theorem making_trades (making : Making) : Trades Held 0 (making.run p t) (made id) := by
  have inObject {α : Type} {act : Act σ Compile.Error α} {f : α → Object}
      (trades : Trades Held 0 act (made f)) :
      Trades Held 0 (do let a ← act; return f a : Act σ Compile.Error Object) (made id) :=
    trades.bind (fun a => .pure rfl) rfl
  cases making with
  | context d flags => exact inObject ((h.createContext_trades d flags).mapError _)
  | primary d => exact inObject ((h.retain_trades d).mapError _)
  | link => exact inObject (h.createLink_trades.mapError _)
  | module path => exact inObject ((h.loadModule_trades path).mapError _)
  | moduleData image => exact inObject ((h.loadData_trades image).mapError _)
  | compiled source options arch compiler =>
    exact inObject (h.compileAndLoad_trades source options arch compiler)
  | program source name => exact inObject ((h.createProgram_trades source name).mapError _)

theorem destroy_trades (o : Object) : Trades Held {o} (o.destroy p t) fun _ => 0 := by
  cases o with
  | context c => exact (h.destroyContext_trades c).mapError _
  | primary c => exact (h.release_trades c).mapError _
  | link l => exact (h.destroyLink_trades l).mapError _
  | module m => exact (h.unload_trades m).mapError _
  | program q => exact trades_change (h.dropProgram q)

theorem drop_spends (o : Object) : World.Spends Held {o} (o.drop p t) := by
  cases o with
  | context c => exact h.dropContext c
  | primary c => exact h.dropPrimary c
  | link l => exact h.dropLink l
  | module m => exact h.dropModule m
  | program q => exact h.dropProgram q

theorem launchOf_keeps (m : Owned.Module) (name : String) (config : LaunchConfig)
    {launch : Function → Act σ CallError Unit} (launched : ∀ f, Keeps Held (launch f)) :
    Keeps Held (launchOf p t m name config launch) :=
  ((h.function m name).mapError _).andThen fun f =>
    ((launched f).mapError _).andThen fun _ => keeps_pure _

omit h in
theorem keeping_held {α : Type} {o : Object} {act : Act σ Compile.Error α}
    (trades : Trades Held {o} act fun _ => {o}) {others : Multiset Object} {w : World σ}
    (held : Held ({o} + others) w.native) :
    Held ({(keeping o act w).2.1} + others) (keeping o act w).2.2.native := by
  have held := trades others w held
  unfold keeping
  rcases hact : act w with ⟨e | a, w'⟩ <;> rw [hact] at held <;> exact held

omit h in
/-- An image that was added is counted, and nothing else about the session changes. -/
theorem eq_of_add_eq_ok {l l' : LinkSession} {kind : ImageKind} {data : Bytes} {name : String}
    {w : World σ} (ok : (l.add p t kind data name w).1 = .ok l') :
    l' = { l with inputCount := l.inputCount + 1 } := by
  simp only [LinkSession.add, bind, andThen, Act.ofExcept] at ok
  split at ok
  · rename_i octets w' _
    rcases hact : mapError Error.call
      (p.call t (.addLinkInput l.handle kind (LinkSession.handedOver kind data) octets)) w'
      with ⟨e | u, w''⟩
    · simp [hact] at ok
    · simp only [hact] at ok
      exact (Except.ok.inj ok).symm
  · cases ok

theorem growing_held (l : LinkSession) (kind : ImageKind) (data : Bytes) (name : String)
    {others : Multiset Object} {w : World σ} (held : Held ({.link l} + others) w.native) :
    Held ({(growing l (l.add p t kind data name) w).2.1} + others)
      (growing l (l.add p t kind data name) w).2.2.native := by
  have held := h.add_trades l kind data name others w held
  unfold growing
  rcases hact : l.add p t kind data name w with ⟨e | l', w'⟩ <;> rw [hact] at held
  · exact held
  · obtain rfl := eq_of_add_eq_ok (congrArg Prod.fst hact)
    exact h.recount held

/-- A use of an object leaves it, or a link session with another count in its place. -/
theorem use_held (o : Object) (u : Use) {others : Multiset Object} {w : World σ}
    (held : Held ({o} + others) w.native) :
    Held ({(o.use p t u w).2.1} + others) (o.use p t u w).2.2.native := by
  cases o with
  | context c =>
    cases u with
    | makeCurrent => exact keeping_held (((h.setCurrentContext _).mapError _).trades _) held
    | isCurrent =>
      exact keeping_held
        (((h.currentContext.andThen fun _ => keeps_pure _).mapError _).trades _) held
    | _ => exact held
  | primary c =>
    cases u with
    | makeCurrent => exact keeping_held (((h.setCurrentContext _).mapError _).trades _) held
    | _ => exact held
  | link l =>
    cases u with
    | add kind data name => exact growing_held h l kind data name held
    | addPtx text name => exact growing_held h l .ptx _ name held
    | complete => exact keeping_held (((h.keeps_call rfl).mapError _).trades _) held
    | _ => exact held
  | module m =>
    cases u with
    | function name => exact keeping_held (((h.function m name).mapError _).trades _) held
    | global name => exact keeping_held (((h.global m name).mapError _).trades _) held
    | launch name config arguments =>
      exact keeping_held
        ((launchOf_keeps h m name config fun f => h.keeps_directs rfl).trades _) held
    | launchPacked name config arguments =>
      exact keeping_held
        ((launchOf_keeps h m name config fun f => h.keeps_directs rfl).trades _) held
    | _ => exact held
  | program q =>
    cases u with
    | compile options =>
      exact keeping_held ((h.compile_trades q options).mapError _) held
    | ptx => exact keeping_held (((h.keeps_callNvrtc rfl).mapError _).trades _) held
    | log => exact keeping_held (((h.keeps_callNvrtc rfl).mapError _).trades _) held
    | _ => exact held

end

/-! ### Operations -/

/-- The operation forgets an object. -/
def Operation.abandons : Operation → Bool
  | .forget _ => true
  | _ => false

section

variable (h : Accounts p t Held)
include h

omit h in
theorem acting_held {α : Type} {act : Act σ Compile.Error α} {paid : Multiset Object}
    (trades : Trades Held paid act fun _ => 0) {s : Session σ}
    (held : Held (paid + s.objects) s.world.native) :
    Held (acting act s).2.objects (acting act s).2.world.native := by
  have held := trades _ _ held
  rw [Multiset.zero_add] at held
  unfold acting
  rcases hact : act s.world with ⟨e | a, w⟩ <;> rw [hact] at held <;> exact held

/-- Making an object drops the one that was in its slot. -/
theorem put_held (slot : String) (making : Making) {s : Session σ}
    (held : Held s.objects s.world.native) :
    Held (put p t slot making s).2.objects (put p t slot making s).2.world.native := by
  have held := making_trades h making s.objects s.world (by rwa [Multiset.zero_add])
  unfold put
  rcases hm : making.run p t s.world with ⟨e | o, w⟩ <;> rw [hm] at held
  · exact (Multiset.zero_add s.objects) ▸ held
  have held : Held ({o} + s.objects) w.native := held
  dsimp only
  split
  · rename_i empty
    have absent : slot ∉ s.slots.keys := by simp [Table.mem_keys_iff, empty]
    rw [objects, ← Table.erase_eq_self absent, ← Table.values_insert] at held
    exact held
  · rename_i old full
    rw [objects, Table.values_of_get? full, ← Multiset.add_assoc, Multiset.add_comm {o},
      Multiset.add_assoc] at held
    exact drop_spends h old _ w held

theorem useAt_held (slot : String) (way : Use) {s : Session σ}
    (held : Held s.objects s.world.native) :
    Held (useAt p t slot way s).2.objects (useAt p t slot way s).2.world.native := by
  unfold useAt
  split
  · exact held
  · rename_i o full
    rw [objects, Table.values_of_get? full] at held
    exact use_held h o way held

omit h in
theorem taking_held {α : Type} (slot : String)
    {next : Object → Session σ → Except Refusal α × Session σ}
    (spent : ∀ o s, Held ({o} + s.objects) s.world.native →
      Held (next o s).2.objects (next o s).2.world.native)
    {s : Session σ} (held : Held s.objects s.world.native) :
    Held (taking slot next s).2.objects (taking slot next s).2.world.native := by
  unfold taking
  split
  · exact held
  · rename_i o full
    rw [objects, Table.values_of_get? full] at held
    exact spent o _ held

/-- **An operation keeps the account**, whether it succeeds or fails. -/
theorem step_held (o : Operation) (ho : o.abandons = false) {s : Session σ}
    (held : Held s.objects s.world.native) :
    Held (step p t o s).2.objects (step p t o s).2.world.native := by
  have kept {α : Type} {act : Act σ Compile.Error α} (keeps : Keeps Held act) :
      Held (acting act s).2.objects (acting act s).2.world.native :=
    acting_held (keeps.trades 0) (by rwa [Multiset.zero_add])
  cases o with
  | init flags => exact kept ((h.keeps_directs rfl).mapError _)
  | setCurrentContext c => exact kept ((h.setCurrentContext c).mapError _)
  | make slot making => exact put_held h slot making held
  | use slot way => exact useAt_held h slot way held
  | destroy slot =>
    exact taking_held slot (fun o s held => acting_held (destroy_trades h o) held) held
  | drop slot => exact taking_held slot (fun o s held => drop_spends h o _ _ held) held
  | forget slot => cases ho
  | linkPtx text name => exact kept ((h.linkPtx text name).mapError _)
  | compile compiler source options arch filename =>
    exact kept (h.keeps_compile source options arch filename compiler)

end

/-! ### Runs -/

/-- Something that happens in a session or around it. -/
inductive Happening
  /-- An operation is done on a thread. -/
  | operation (t : ThreadId) (o : Operation)
  /-- The driver is asked something on a thread. -/
  | question (t : ThreadId) (c : Driver.Call)
  /-- The files, the environment or the settings change. -/
  | elsewhere (files : FileTree) (environment : Environment) (settings : Settings)

/-- Nobody forgets an object, and questions change nothing. -/
def Happening.orderly : Happening → Bool
  | .operation _ o => !o.abandons
  | .question _ c => c.asks
  | .elsewhere .. => true

variable (p)

/-- The session after something has happened. -/
def happen (s : Session σ) : Happening → Session σ
  | .operation t o => (step p t o s).2
  | .question t c => { s with world := (p.call t c s.world).2 }
  | .elsewhere files environment settings =>
    { s with world := { s.world with files, environment, settings } }

/-- The session after a run. -/
def run (s : Session σ) (xs : List Happening) : Session σ := xs.foldl (happen p) s

variable {p}

theorem happen_held (h : ∀ t, Accounts p t Held) {x : Happening} (hx : x.orderly = true)
    {s : Session σ} (held : Held s.objects s.world.native) :
    Held (happen p s x).objects (happen p s x).world.native := by
  cases x with
  | operation t o => exact step_held (h t) o (by simpa [Happening.orderly] using hx) held
  | question t c => exact (h t).keeps_call hx _ _ held
  | elsewhere => exact held

/-- **A run keeps the account.** -/
theorem run_held (h : ∀ t, Accounts p t Held) {xs : List Happening}
    (orderly : ∀ x ∈ xs, x.orderly = true) {s : Session σ}
    (held : Held s.objects s.world.native) :
    Held (run p s xs).objects (run p s xs).world.native := by
  induction xs generalizing s with
  | nil => exact held
  | cons x xs ih =>
    exact ih (fun y hy => orderly y (List.mem_cons_of_mem _ hy))
      (happen_held h (orderly x List.mem_cons_self) held)

/-! ### The end -/

variable {s : Session σ}

theorem mem_keys_drop {slot k : String} (hk : k ∈ (step p t (.drop slot) s).2.slots.keys) :
    k ≠ slot ∧ k ∈ s.slots.keys := by
  simp only [step, taking] at hk
  split at hk
  · rename_i empty
    refine ⟨fun he => ?_, hk⟩
    simp [Table.mem_keys_iff, he, empty] at hk
  · exact Table.mem_keys_erase.1 hk

theorem mem_keys_dropSlots {slots : List String} {k : String}
    (hk : k ∈ (dropSlots p t slots s).slots.keys) : k ∉ slots ∧ k ∈ s.slots.keys := by
  induction slots generalizing s with
  | nil => exact ⟨List.not_mem_nil, hk⟩
  | cons slot slots ih =>
    obtain ⟨habsent, hk⟩ := ih hk
    obtain ⟨hne, hk⟩ := mem_keys_drop hk
    exact ⟨by simp [hne, habsent], hk⟩

/-- No object outlives a session. -/
theorem objects_finish (p : Platform σ) (t : ThreadId) (s : Session σ) :
    (finish p t s).objects = 0 := by
  have none_left : (finish p t s).slots.keys = [] := by
    refine List.eq_nil_iff_forall_not_mem.2 fun k hk => ?_
    obtain ⟨habsent, hk⟩ := mem_keys_dropSlots hk
    exact habsent (List.mem_mergeSort.2 hk)
  have empty : (finish p t s).slots.entries = [] := List.map_eq_nil_iff.1 none_left
  simp [objects, Table.values, empty]

theorem finish_held (h : Accounts p t Held) (held : Held s.objects s.world.native) :
    Held 0 (finish p t s).world.native := by
  have kept (slots : List String) {s : Session σ} (held : Held s.objects s.world.native) :
      Held (dropSlots p t slots s).objects (dropSlots p t slots s).world.native := by
    induction slots generalizing s with
    | nil => exact held
    | cons slot slots ih => exact ih (step_held h (.drop slot) rfl held)
  exact objects_finish p t s ▸ kept _ held

end Session

end GpuDriver
