import GpuDriver.Proofs.InProcess.Lifetime
import GpuDriver.Proofs.Owned.Launch

/-!
# Symbols over the life of a module

What is found in a module is settled by the text that it was loaded from: its kernels, each with one
handle, and its variables, of which the last of a name counts. As long as the module is there every
lookup finds the same; once it is gone, every lookup finds that its handle is not valid
(`module_symbols`).
-/

namespace GpuDriver.InProcess

open State

variable {s : State} {t : ThreadId} {e : Event} {m : Handle} {loaded : Module}

/-! ### Where variables are -/

/-- The last of the variables that has the name gets the place `a`, if they are placed from `cursor` on:
it is behind all that are declared before it. -/
def LastAt (cursor : Address) (globals : List Ptx.Global) (n : String) (a : Allocation) : Prop :=
  ∃ before g behind, globals = before ++ g :: behind ∧ g.name = n ∧ (∀ g' ∈ behind, g'.name ≠ n) ∧
    a = ⟨cursor + reservedFor before, g.bytes⟩

theorem lastAt_cons {cursor : Address} {g : Ptx.Global} {rest : List Ptx.Global} {n : String}
    {a : Allocation} : LastAt cursor (g :: rest) n a ↔
      LastAt (cursor + reserved g.bytes) rest n a ∨
        (∀ g' ∈ rest, g'.name ≠ n) ∧ g.name = n ∧ a = ⟨cursor, g.bytes⟩ := by
  constructor
  · rintro ⟨before, g', behind, split, named, last, rfl⟩
    cases before with
    | nil =>
      obtain ⟨rfl, rfl⟩ := List.cons.inj split
      exact Or.inr ⟨last, named, rfl⟩
    | cons _ before =>
      obtain ⟨rfl, rfl⟩ := List.cons.inj split
      exact Or.inl ⟨before, g', behind, rfl, named, last, by rw [reservedFor_cons, Nat.add_assoc]⟩
  · rintro (⟨before, g', behind, rfl, named, last, rfl⟩ | ⟨last, named, rfl⟩)
    · exact ⟨g :: before, g', behind, rfl, named, last, by rw [reservedFor_cons, Nat.add_assoc]⟩
    · exact ⟨[], g, rest, rfl, named, last, rfl⟩

theorem exists_lastAt_iff {cursor : Address} {globals : List Ptx.Global} {n : String} :
    (∃ a, LastAt cursor globals n a) ↔ n ∈ globals.map (·.name) := by
  induction globals generalizing cursor with
  | nil =>
    constructor
    · rintro ⟨a, before, g, behind, split, -⟩
      cases before <;> cases split
    · intro named
      cases named
  | cons g rest ih =>
    simp only [lastAt_cons, exists_or, ih, List.map_cons, List.mem_cons]
    constructor
    · rintro (later | ⟨-, -, rfl, -⟩)
      · exact Or.inr later
      · exact Or.inl rfl
    · intro named
      by_cases later : n ∈ rest.map (·.name)
      · exact Or.inl later
      · refine Or.inr ⟨_, fun g' hg' same => later (same ▸ List.mem_map_of_mem hg'), ?_, rfl⟩
        exact (named.resolve_right later).symm

/-- Of variables that were placed, a name gets the last that has it; a name that none has keeps what it
had. -/
theorem get?_of_place {cursor stop : Address} {placed table : Table String Allocation}
    {globals : List Ptx.Global} (h : place cursor placed globals = (some table, stop)) {n : String}
    {a : Allocation} : table.get? n = some a ↔
      LastAt cursor globals n a ∨ (∀ g ∈ globals, g.name ≠ n) ∧ placed.get? n = some a := by
  induction globals generalizing cursor placed with
  | nil =>
    obtain ⟨rfl, -⟩ : placed = table ∧ _ := by simpa [place] using h
    simp [LastAt]
  | cons g rest ih =>
    rw [place] at h
    cases next : advance? cursor g.bytes with
    | none => simp [next] at h
    | some after =>
      rw [next] at h
      obtain ⟨rfl, -⟩ := advance?_eq_some_iff.1 next
      rw [ih h, Table.get?_insert, lastAt_cons, List.forall_mem_cons, or_assoc]
      refine or_congr_right ?_
      by_cases same : n = g.name
      · simp [same, eq_comm]
      · simp [same, Ne.symm same]

/-! ### Loads that succeed -/

/-- The module that a success loads, if it is a load. -/
def Success.loaded? : Success → Option Handle
  | ⟨.loadModule _, m⟩ | ⟨.loadModuleData _, m⟩ => some m
  | _ => none

/-- The module that an event loads. -/
def State.loaded? (s : State) (e : Event) : Option Handle :=
  (s.success? e.thread e).bind (·.loaded?)

theorem loaded?_of_ok {value : e.call.Value} (ok : s.reply e = .ok value) :
    s.loaded? e = Success.loaded? ⟨e.call, value⟩ := by
  rw [State.loaded?, success?, if_pos rfl, ok]
  rfl

/-- What a module is loaded from, and what the load leaves. -/
theorem exists_of_loaded? (h : s.loaded? e = some m) :
    ∃ c text globals cursor, s.current e.thread = .ok c ∧ e.text? = some text ∧
      place s.nextAddress .empty (Ptx.symbols text).globals = (some globals, cursor) ∧
      (m, s.after e) =
        addModule { s with nextAddress := cursor } c globals (Ptx.symbols text).entries := by
  cases answered : s.reply e with
  | error status =>
    rw [State.loaded?, success?, if_pos rfl, answered] at h
    cases h
  | ok value =>
    rw [loaded?_of_ok answered] at h
    obtain ⟨t, files, call⟩ := e
    cases call with
    | loadModuleData image =>
      obtain rfl : value = m := Option.some.inj h
      obtain ⟨c, text, globals, cursor, current, read, -, placed, left⟩ := loadImage_eq_ok_iff.1
        (show s.loadImage t image = (.ok value, s.after ⟨t, files, .loadModuleData image⟩) from
          Prod.ext answered rfl)
      exact ⟨c, text, globals, cursor, current, read, placed, left⟩
    | loadModule path =>
      obtain rfl : value = m := Option.some.inj h
      have loaded : s.loadFile t files path = (.ok value, s.after ⟨t, files, .loadModule path⟩) :=
        Prod.ext answered rfl
      obtain ⟨status, -, failed⟩ | ⟨image, found, same⟩ := loadFile_cases s t files path
      · cases failed.symm.trans loaded
      · obtain ⟨c, text, globals, cursor, current, read, -, placed, left⟩ :=
          loadImage_eq_ok_iff.1 (same.symm.trans loaded)
        exact ⟨c, text, globals, cursor, current, (Event.text?_loadModule found).trans read, placed,
          left⟩
    | _ => cases h

/-- The module that a load leaves belongs to the context that was current, and has the kernels and the
variables of the text. -/
theorem module_of_loaded? (h : s.loaded? e = some m) :
    ∃ text loaded, s.current e.thread = .ok loaded.context ∧ e.text? = some text ∧
      (s.after e).modules.get? m = some loaded ∧
      (∀ n, n ∈ loaded.functions.keys ↔ n ∈ (Ptx.symbols text).entries) ∧
      ∀ n a, loaded.globals.get? n = some a ↔
        LastAt s.nextAddress (Ptx.symbols text).globals n a := by
  obtain ⟨c, text, globals, cursor, current, read, placed, left⟩ := exists_of_loaded? h
  have there : (s.after e).modules.get? m = some ⟨c, .ofList ((numbered m
      (Ptx.symbols text).entries).map fun k => (k.2, k.1)), globals⟩ := by
    rw [(Prod.mk.inj left).1, (Prod.mk.inj left).2]
    exact Table.get?_insert_self ..
  refine ⟨text, _, current, read, there, fun n => mem_keys_functions, fun n a => ?_⟩
  rw [get?_of_place placed]
  simp

/-! ### Lookups -/

/-- The answer to a lookup in a module that is there. -/
def found {α : Type} (symbol : Option α) : Except Status α := symbol.elim (.error .notFound) .ok

theorem symbol_encode {α : Type} (symbols : Table String α) (n : String) :
    symbol symbols (Utf8.encode n) = found (symbols.get? n) := by
  rw [symbol, Utf8.decode?_encode, Option.bind_some, found]
  cases symbols.get? n <;> rfl

/-- A module that is not there has a handle that is not valid. -/
theorem module_eq (up : s.initialized = true) (m : Handle) :
    s.module m = (s.modules.get? m).elim (.error .invalidHandle) .ok := by
  rw [State.module, requireInit_eq_ok_iff (u := ()).2 up]
  cases s.modules.get? m <;> rfl

theorem function_encode (up : s.initialized = true) (m : Handle) (n : String) :
    s.function m (Utf8.encode n) = (s.modules.get? m).elim (.error .invalidHandle)
      fun loaded => found (loaded.functions.get? n) := by
  rw [State.function, module_eq up]
  cases s.modules.get? m with
  | none => rfl
  | some loaded => exact symbol_encode loaded.functions n

theorem global_encode (up : s.initialized = true) (m : Handle) (n : String) :
    s.global m (Utf8.encode n) = (s.modules.get? m).elim (.error .invalidHandle)
      fun loaded => found (loaded.globals.get? n) := by
  rw [State.global, module_eq up]
  cases s.modules.get? m with
  | none => rfl
  | some loaded => exact symbol_encode loaded.globals n

/-- **What is found in a module, over its whole life.** Whatever any threads did before it was loaded and
do afterwards, a module is there exactly as long as the context that was current when it was loaded is
alive and the module is not unloaded. As long as it is there, a kernel is found under each name that the
text has an entry for, and under no other, always with the same handle; and a variable under each name
that the text declares, and under no other, always in the same place, that of the last declaration. Once
the module is gone, its handle is not valid for any lookup. And no two kernels of a run, of whatever
modules and names, are found with one handle. -/
theorem module_symbols (devices : Int) (capability : Int × Int) :
    let s₀ := fresh devices capability
    (∀ front e m, (s₀.run front).loaded? e = some m →
      let s := s₀.run front
      ∃ c text, s.current e.thread = .ok c ∧ e.text? = some text ∧
        ∃ (kernelOf : String → Option Handle) (variableOf : String → Option Allocation),
          (∀ n, (kernelOf n).isSome ↔ n ∈ (Ptx.symbols text).entries) ∧
          (∀ n, (variableOf n).isSome ↔ n ∈ (Ptx.symbols text).globals.map (·.name)) ∧
          (∀ n a, variableOf n = some a →
            LastAt s.nextAddress (Ptx.symbols text).globals n a) ∧
          ∀ back, let s' := (s.after e).run back
            (m ∈ s'.modules.keys ↔
              c ∈ s'.contexts.keys ∧ .unloadModule m ∉ (s.after e).succeeded back) ∧
            ∀ t files n,
              s'.reply ⟨t, files, .function m (Utf8.encode n)⟩ =
                (if m ∈ s'.modules.keys then found (kernelOf n) else .error .invalidHandle) ∧
              s'.reply ⟨t, files, .global m (Utf8.encode n)⟩ =
                if m ∈ s'.modules.keys then found (variableOf n) else .error .invalidHandle) ∧
    ∀ front back m m' n n' f t t' files files',
      (s₀.run front).reply ⟨t, files, .function m (Utf8.encode n)⟩ = .ok f →
      (s₀.run (front ++ back)).reply ⟨t', files', .function m' (Utf8.encode n')⟩ = .ok f →
        m = m' ∧ n = n' := by
  intro s₀
  constructor
  · intro front e m loaded s
    have hi : Integrity s := integrity_run devices capability front
    have hi₁ : Integrity (s.after e) := hi.change (change_after s e)
    obtain ⟨text, module, current, read, hm, kernels, places⟩ := module_of_loaded? loaded
    have up : (s.after e).initialized = true :=
      (change_after s e).initialized (current_eq_ok_iff.1 current).1
    refine ⟨module.context, text, current, read, module.functions.get?, module.globals.get?,
      fun n => Table.mem_keys_iff.symm.trans (kernels n), fun n => ?_,
      fun n a => (places n a).1, fun back => ⟨mem_modules_run_iff hi₁ hm back, fun t files n => ?_⟩⟩
    · simp only [Option.isSome_iff_exists, places, exists_lastAt_iff]
    · have up : ((s.after e).run back).initialized = true := (later_run _ back).started up
      have functions := function_encode up m n
      have globals := global_encode up m n
      split
      · rename_i alive
        rw [get?_modules_run hi₁ hm alive] at functions globals
        exact ⟨functions, globals⟩
      · rename_i gone
        rw [Option.eq_none_iff_forall_ne_some.2 fun x hx => gone (Table.mem_keys.2 ⟨x, hx⟩)]
          at functions globals
        exact ⟨functions, globals⟩
  · intro front back m m' n n' f t t' files files' first second
    have hi : Integrity (s₀.run front) := integrity_run devices capability front
    have later : Later (s₀.run front) (s₀.run (front ++ back)) := by
      rw [run_append]
      exact later_run _ back
    have named := (integrity_run devices capability (front ++ back)).function_found second
    have same := kernel_eq_of_later hi first later named
    exact ⟨(congrArg Function.module same).symm, (congrArg Function.name same).symm⟩

/-- A kernel is found with one handle before and after another context is made, and under that handle no
other kernel ever; no variable of its name is found. Once the context of the module is destroyed, the
handle of the module is not valid. -/
theorem module_symbols_kernel :
    let s := (fresh 1 (7, 0)).run contextRun
    let e := textLoad 0 (Ptx.kernelModule 0)
    let made : List Event := [⟨1, {}, .createContext 0 ⟨0⟩⟩]
    let destroyed : List Event := [⟨0, {}, .destroyContext 0x1100⟩]
    let kernel : Event := ⟨0, {}, .function 0x1200 (Utf8.encode "k")⟩
    let global : Event := ⟨0, {}, .global 0x1200 (Utf8.encode "k")⟩
    s.loaded? e = some 0x1200 ∧
      (∃ f, (s.after e).reply kernel = .ok f ∧ ((s.after e).run made).reply kernel = .ok f ∧
        ∀ back m n, ((s.after e).run back).reply ⟨1, {}, .function m (Utf8.encode n)⟩ = .ok f →
          0x1200 = m ∧ "k" = n) ∧
      ((s.after e).run made).reply global = .error .notFound ∧
      ((s.after e).run destroyed).reply kernel = .error .invalidHandle := by
  intro s e made destroyed kernel global
  have loaded : s.loaded? e = some 0x1200 :=
    loaded?_of_ok (e := e) (congrArg Prod.fst loadImage_kernelModule)
  have left : s.after e = _ := congrArg Prod.snd loadImage_kernelModule
  obtain ⟨c, text, -, read, kernelOf, variableOf, kernels, declared, -, life⟩ :=
    (module_symbols 1 (7, 0)).1 contextRun e 0x1200 loaded
  obtain rfl : text = Ptx.kernelModule 0 := by
    simpa [Event.text?, e, textLoad, imageText?_kernelModule] using read.symm
  rw [Ptx.symbols_kernelModule] at kernels declared
  obtain ⟨f, hf⟩ := Option.isSome_iff_exists.1 ((kernels "k").2 (List.mem_singleton_self _))
  have none : variableOf "k" = none := by
    simpa using (declared "k").not
  have first := ((life []).2 0 {} "k").1
  have there := (life made).2 0 {} "k"
  have gone := ((life destroyed).2 0 {} "k").1
  rw [if_pos (by rw [run_nil, left]; decide), hf] at first
  rw [if_pos (by rw [left]; decide), if_pos (by rw [left]; decide), hf, none] at there
  rw [if_neg (by rw [left]; decide)] at gone
  refine ⟨loaded, ⟨f, first, there.1, fun back m n found => ?_⟩, there.2, gone⟩
  have run : (fresh 1 (7, 0)).run kernelRun = s.after e := run_concat _ _ _
  refine (module_symbols 1 (7, 0)).2 kernelRun back 0x1200 m "k" n f 0 1 {} {} ?_ ?_
  · rw [run]
    exact first
  · rw [run_append, run]
    exact found

end GpuDriver.InProcess
