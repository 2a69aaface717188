import GpuDriver.Proofs.InProcess.Memory
import GpuDriver.Proofs.Ptx.Reading

/-!
# Linking and loading what the grammar writes

Modules are written as texts and handed to a link session, which joins them to an image that is then
loaded. If no kernel is defined twice and the variables fit, nothing of this fails, and the module that
is loaded has the kernels and the variables of the trees, and no others (`written_modules_load`).
-/

namespace GpuDriver.InProcess

open State

/-! ### What is handed over -/

/-- A module, and how it is handed to a link session. -/
structure Delivery where
  /-- The module. -/
  module : Ptx.Module
  /-- The text that it is written as. -/
  text : String
  written : module.Writes text
  /-- How many NULs there are behind the text. -/
  padding : Nat
  /-- What the image is said to be. -/
  kind : ImageKind
  /-- What it is called. -/
  name : Bytes
  /-- The thread that hands it over. -/
  thread : ThreadId
  /-- The files that there are at that time. -/
  files : FileTree

namespace Delivery

/-- The octets of the image. -/
def image (d : Delivery) : Bytes := Utf8.encode d.text ++ List.replicate d.padding 0

/-- The module is handed to a session. -/
def event (l : Handle) (d : Delivery) : Event :=
  ⟨d.thread, d.files, .addLinkInput l d.kind d.image d.name⟩

/-- What the session keeps of it. -/
def input (d : Delivery) : LinkInput := ⟨d.kind, Utf8.decodeLossy d.name, d.text⟩

end Delivery

/-- What the modules define, in order. -/
def delivered (ds : List Delivery) : Ptx.Symbols where
  entries := ds.flatMap fun d => d.module.symbols.entries
  globals := ds.flatMap fun d => d.module.symbols.globals

/-- The size of the variable of a name; of two with one name the later counts. -/
def sizeOf? (globals : List Ptx.Global) (name : String) : Option Nat :=
  (globals.reverse.find? fun g => g.name = name).map (·.bytes)

/-! ### Handing modules over -/

section Session

variable {s : State} {l : Handle} {inputs : List LinkInput}

/-- A session accepts a module that is written. -/
theorem addLinkInput_delivery (up : s.initialized = true) (alive : s.links.get? l = some inputs)
    (d : Delivery) : s.addLinkInput l d.kind d.image d.name = (.ok (), { s with
      links := s.links.insert l (inputs ++ [d.input]) }) := by
  have valid : Ptx.isModule d.text = true := d.written.read.1
  exact addLinkInput_of_isModule up alive
    (imageText?_padded_of_isModule valid d.written.getLast?_ne d.padding) valid d.kind d.name

theorem event_delivery (up : s.initialized = true) (alive : s.links.get? l = some inputs)
    (d : Delivery) : s.reply (d.event l) = .ok () ∧
      s.after (d.event l) = { s with links := s.links.insert l (inputs ++ [d.input]) } := by
  have accepted := addLinkInput_delivery up alive d
  exact ⟨congrArg Prod.fst accepted, congrArg Prod.snd accepted⟩

/-- Modules that are handed over one after the other change nothing but the session. -/
theorem run_deliveries (up : s.initialized = true) (alive : s.links.get? l = some inputs)
    (ds : List Delivery) : ∃ links, s.run (ds.map (·.event l)) = { s with links } ∧
      links.get? l = some (inputs ++ ds.map (·.input)) := by
  induction ds generalizing s inputs with
  | nil => exact ⟨s.links, rfl, by simpa using alive⟩
  | cons d rest ih =>
    obtain ⟨-, hafter⟩ := event_delivery up alive d
    obtain ⟨links, hrun, halive⟩ := ih (s := { s with
      links := s.links.insert l (inputs ++ [d.input]) }) up (Table.get?_insert_self ..)
    refine ⟨links, ?_, by simpa using halive⟩
    rw [List.map_cons, run_cons, hafter, hrun]

end Session

/-! ### What is linked -/

/-- The texts that are joined define what the modules do. -/
theorem linkedSymbols_deliveries (ds : List Delivery) :
    linkedSymbols (ds.map (·.input)) = delivered ds := by
  induction ds with
  | nil => rfl
  | cons d rest ih =>
    rw [List.map_cons, linkedSymbols_cons, ih]
    have hread : Ptx.symbols d.input.text = d.module.symbols := d.written.read.2.1
    rw [hread]
    rfl

theorem linkedText_deliveries {ds : List Delivery} (h : ds ≠ []) :
    Ptx.isModule (linkedText (ds.map (·.input))) = true ∧
      Ptx.symbols (linkedText (ds.map (·.input))) = delivered ds := by
  have valid : ∀ input ∈ ds.map (·.input), Ptx.isModule input.text = true := by
    intro input hm
    obtain ⟨d, -, rfl⟩ := List.mem_map.1 hm
    exact d.written.read.1
  have complete : ∀ input ∈ (ds.map (·.input)).dropLast, Ptx.Complete input.text := by
    intro input hm
    obtain ⟨d, -, rfl⟩ := List.mem_map.1 ((List.dropLast_sublist _).mem hm)
    exact d.written.read.2.2
  rw [← linkedSymbols_deliveries]
  exact linkedText_of_complete (by simpa using h) valid complete

/-! ### What is found in a module -/

section Lookup

variable {s : State} {m : Handle} {name : Bytes} {loaded : Module}

theorem symbol_eq_ok_iff {α : Type} {symbols : Table String α} {a : α} :
    symbol symbols name = .ok a ↔ ∃ k, name = Utf8.encode k ∧ symbols.get? k = some a := by
  have hfound : symbol symbols name = .ok a ↔ (Utf8.decode? name).bind symbols.get? = some a := by
    unfold symbol
    cases (Utf8.decode? name).bind symbols.get? <;> simp
  simp only [hfound, Option.bind_eq_some_iff, Utf8.decode?_eq_some_iff]

theorem function_eq_ok_iff (up : s.initialized = true) (alive : s.modules.get? m = some loaded)
    {f : Handle} : s.function m name = .ok f ↔
      ∃ k, name = Utf8.encode k ∧ loaded.functions.get? k = some f := by
  rw [State.function, module_eq_ok_iff.2 ⟨up, alive⟩]
  exact symbol_eq_ok_iff

theorem global_eq_ok_iff (up : s.initialized = true) (alive : s.modules.get? m = some loaded)
    {a : Allocation} : s.global m name = .ok a ↔
      ∃ k, name = Utf8.encode k ∧ loaded.globals.get? k = some a := by
  rw [State.global, module_eq_ok_iff.2 ⟨up, alive⟩]
  exact symbol_eq_ok_iff

/-- No reference dangles after a load. -/
theorem Integrity.loadImage (h : Integrity s) {t : ThreadId} {image : Bytes}
    {answer : Except Status Handle} {s' : State} (loaded : s.loadImage t image = (answer, s')) :
    Integrity s' := by
  have kept := h.change (change_loadImage (t := t) (.loadModuleData image) image)
  rwa [loaded] at kept

/-- What is found for a name is the kernel of that module and name. -/
theorem Ownership.function_found (h : Ownership s) {k : String} {f : Handle}
    (hf : s.function m (Utf8.encode k) = .ok f) : s.functions.get? f = some ⟨m, k⟩ := by
  rw [State.function, bind_eq_ok_iff] at hf
  obtain ⟨loaded, alive, found⟩ := hf
  obtain ⟨k', hk, listed⟩ := symbol_eq_ok_iff.1 found
  obtain rfl : k = k' := Utf8.encode_injective hk
  exact h.listed_function (module_eq_ok_iff.1 alive).2 listed

end Lookup

theorem map_snd_numbered (last : Handle) (names : List String) :
    (numbered last names).map Prod.snd = names := by
  induction names generalizing last with
  | nil => rfl
  | cons name rest ih => rw [numbered, List.map_cons, ih]

/-- A module has a handle for the names of its kernels and for no other. -/
theorem mem_keys_functions {last : Handle} {names : List String} {k : String} :
    k ∈ (Table.ofList ((numbered last names).map fun x => (x.2, x.1))).keys ↔ k ∈ names := by
  rw [Table.mem_keys_ofList]
  constructor
  · rintro ⟨e, he, rfl⟩
    obtain ⟨x, hx, rfl⟩ := List.mem_map.1 he
    exact (mem_numbered hx).2.2
  · intro hk
    rw [← map_snd_numbered last names] at hk
    obtain ⟨x, hx, rfl⟩ := List.mem_map.1 hk
    exact ⟨(x.2, x.1), List.mem_map.2 ⟨x, hx, rfl⟩, rfl⟩

theorem map_allocations (cursor : Address) (globals : List Ptx.Global) :
    (allocations cursor globals).map (fun a => (a.1, a.2.bytes)) =
      globals.map fun g => (g.name, g.bytes) := by
  induction globals generalizing cursor with
  | nil => rfl
  | cons g rest ih => rw [allocations, List.map_cons, List.map_cons, ih]

/-- A module has for each name the variable that was declared last. -/
theorem get?_allocations (cursor : Address) (globals : List Ptx.Global) (k : String) :
    (((allocations cursor globals).foldl (fun t a => t.insert a.1 a.2) Table.empty).get? k).map
      Allocation.bytes = sizeOf? globals k := by
  let named : String × Nat → Bool := fun x => x.1 = k
  have placed : ∀ l : List (String × Allocation), ((l.find? fun a => a.1 = k).map (·.2)).map (·.bytes) =
      ((l.map fun a => (a.1, a.2.bytes)).find? named).map Prod.snd := by
    intro l
    rw [List.find?_map, Option.map_map, Option.map_map]
    rfl
  have declared : ∀ l : List Ptx.Global, (l.find? fun g => g.name = k).map (·.bytes) =
      ((l.map fun g => (g.name, g.bytes)).find? named).map Prod.snd := by
    intro l
    rw [List.find?_map, Option.map_map]
    rfl
  rw [Table.get?_foldl_insert, Table.get?_empty, Option.or_none, placed, sizeOf?, declared,
    List.map_reverse, List.map_reverse, map_allocations]

section Added

variable {s : State} (up : s.initialized = true) (c : Handle)

include up

/-- The kernels that are found in a module that was just loaded are those that it was given. -/
theorem exists_function_addModule (placed : Table String Allocation) (entries : List String)
    (name : Bytes) :
    let loaded := addModule s c placed entries
    (∃ f, loaded.2.function loaded.1 name = .ok f) ↔ ∃ k ∈ entries, name = Utf8.encode k := by
  intro loaded
  have up : loaded.2.initialized = true := up
  have alive : loaded.2.modules.get? loaded.1 = some _ := Table.get?_insert_self ..
  simp only [function_eq_ok_iff up alive]
  constructor
  · rintro ⟨f, k, rfl, hk⟩
    exact ⟨k, mem_keys_functions.1 (Table.mem_keys.2 ⟨f, hk⟩), rfl⟩
  · rintro ⟨k, hk, rfl⟩
    obtain ⟨f, hf⟩ := Table.mem_keys.1 (mem_keys_functions.2 hk)
    exact ⟨f, k, rfl, hf⟩

/-- So are its variables. -/
theorem global_addModule (placed : Table String Allocation) (entries : List String) (name : Bytes) :
    let loaded := addModule s c placed entries
    loaded.2.global loaded.1 name = symbol placed name := by
  intro loaded
  have up : loaded.2.initialized = true := up
  have alive : loaded.2.modules.get? loaded.1 = some _ := Table.get?_insert_self ..
  rw [State.global, module_eq_ok_iff.2 ⟨up, alive⟩]
  rfl

/-- What is found in a module that was just loaded, for variables that were placed from the cursor on. -/
theorem lookup_addModule (cursor : Address) (globals : List Ptx.Global) (entries : List String) :
    let placed := (allocations cursor globals).foldl (fun t a => t.insert a.1 a.2) Table.empty
    let loaded := addModule s c placed entries
    (∀ name, (∃ f, loaded.2.function loaded.1 name = .ok f) ↔ ∃ k ∈ entries, name = Utf8.encode k) ∧
      ∀ name bytes, (∃ address, loaded.2.global loaded.1 name = .ok ⟨address, bytes⟩) ↔
        ∃ k, name = Utf8.encode k ∧ sizeOf? globals k = some bytes := by
  intro placed loaded
  refine ⟨exists_function_addModule up c placed entries, fun name bytes => ?_⟩
  simp only [loaded, global_addModule up c placed entries, symbol_eq_ok_iff,
    ← get?_allocations cursor globals]
  constructor
  · rintro ⟨address, k, rfl, hk⟩
    exact ⟨k, rfl, congrArg (Option.map Allocation.bytes) hk⟩
  · rintro ⟨k, rfl, hk⟩
    obtain ⟨a, ha, rfl⟩ := Option.map_eq_some_iff.1 hk
    exact ⟨a.address, k, rfl, ha⟩

end Added

/-! ### From texts to a module that is loaded -/

/-- **Modules that are written can be linked and loaded.** In the books of any run, let a session be new,
let a thread have a current context, and let modules be handed to the session as texts that write them,
by whatever threads. If they define no kernel twice and their variables fit, the session accepts each of
them and joins them, and the thread can load what comes out; what is loaded has a kernel for each name of
one in the trees and for no other, known by that name, and the variables of the trees, each with the size
of its last declaration, and no others. -/
theorem written_modules_load (devices : Int) (capability : Int × Int) (es : List Event)
    (t : ThreadId) (c l : Handle) (ds : List Delivery) (nonempty : ds ≠ [])
    (session : ((fresh devices capability).run es).links.get? l = some [])
    (current : ((fresh devices capability).run es).current t = .ok c)
    (distinct : (delivered ds).entries.Nodup)
    (fits : ((fresh devices capability).run es).nextAddress + reservedFor (delivered ds).globals <
      Text.wordBound) :
    let s := (fresh devices capability).run es
    let s₁ := s.run (ds.map (·.event l))
    (∀ front d rest, ds = front ++ d :: rest →
      (s.run (front.map (·.event l))).reply (d.event l) = .ok ()) ∧
    ∃ image m s₂, s₁.completeLink l = .ok image ∧ s₁.loadImage t image = (.ok m, s₂) ∧
      (∀ name, (∃ f, s₂.function m name = .ok f) ↔
        ∃ k ∈ (delivered ds).entries, name = Utf8.encode k) ∧
      (∀ k f, s₂.function m (Utf8.encode k) = .ok f → s₂.functions.get? f = some ⟨m, k⟩) ∧
      ∀ name bytes, (∃ address, s₂.global m name = .ok ⟨address, bytes⟩) ↔
        ∃ k, name = Utf8.encode k ∧ sizeOf? (delivered ds).globals k = some bytes := by
  intro s s₁
  have up : s.initialized = true := (current_eq_ok_iff.1 current).1
  refine ⟨?_, ?_⟩
  · rintro front d rest -
    obtain ⟨links, hrun, alive⟩ := run_deliveries up session front
    rw [hrun]
    exact (event_delivery (s := { s with links }) up alive d).1
  obtain ⟨links, hrun, alive⟩ := run_deliveries up session ds
  obtain ⟨valid, defined⟩ := linkedText_deliveries nonempty
  have given : ds.map (·.input) ≠ [] := by simpa using nonempty
  have distinct : (linkedEntries (ds.map (·.input))).Nodup := by
    rw [← linkedSymbols_deliveries] at distinct
    exact distinct
  have read := imageText?_encode_of_isModule valid (getLast?_linkedText given)
  have fits : s.nextAddress + reservedFor (Ptx.symbols (linkedText (ds.map (·.input)))).globals <
      Text.wordBound := by
    rw [defined]
    exact fits
  have hs₁ : s₁ = { s with links } := hrun
  have integrity : Integrity s₁ := (integrity_run devices capability es).run _
  rw [hs₁] at integrity ⊢
  have loaded := (loadImage_eq_ok_iff (s := { s with links })).2
    ⟨c, _, _, _, current, read, valid, place_of_fits fits .empty, rfl⟩
  obtain ⟨functions, globals⟩ :=
    lookup_addModule up c s.nextAddress (delivered ds).globals (delivered ds).entries
  refine ⟨_, _, _, completeLink_eq_ok_iff.2 ⟨up, _, alive, given, distinct, rfl⟩, loaded, ?_, ?_, ?_⟩
  · rw [defined]
    exact functions
  · exact fun k f => (integrity.loadImage loaded).function_found
  · rw [defined]
    exact globals

/-! ### Two modules -/

/-- The header of a module for one target. -/
def plainHeader : Ptx.Header where
  major := ⟨"7".toList, by decide, by decide⟩
  minor := ⟨"0".toList, by decide, by decide⟩
  target := "sm_70".toList
  target_ne_nil := by decide
  target_valid := by decide
  addressSize := none

/-- A table of two numbers. -/
def tableVariable : Ptx.Variable where
  visible := false
  space := .const
  align := none
  kind := .unsigned
  width := .w32
  name := ⟨'t', [], by decide, by decide⟩
  extents := [⟨"2".toList, by decide, by decide⟩]
  value := some ⟨" \x7b1, 2\x7d".toList, by decide, by decide⟩
  fits := by decide

/-- A kernel with one statement. -/
def idleKernel : Ptx.Kernel where
  visible := true
  name := ⟨'k', [], by decide, by decide⟩
  params := " ".toList
  params_valid := by decide
  params_words := by decide
  statements := ["\n ret".toList]
  statements_valid := by decide
  statements_words := by decide

/-- The text of the header and of what stands behind it. -/
def plainText (rest : List Char) : List Char :=
  [] ++ (".version".toList ++ [' '] ++ ("7.0".toList ++ ['\n'] ++ (".target".toList ++ [' '] ++ []))) ++
    "sm_70".toList ++ ['\n'] ++ rest

theorem spells_plainText {items : List Ptx.Item} {rest : List Char}
    (h : Ptx.SpellsItems items rest) :
    Ptx.Module.Spells ⟨plainHeader, items⟩ (plainText rest) :=
  .mk (by decide) (.cons (by decide) (.cons (by decide) (.cons (by decide) .nil))) (by decide)
    (fun _ => by decide) h

/-- The table, handed over as a text with a comment up to the end of a line. -/
def tableDelivery : Delivery where
  module := ⟨plainHeader, [.var tableVariable]⟩
  text := ".version 7.0\n.target sm_70\n.const .u32" ++ "//two numbers\nt[2] = \x7b1, 2\x7d;\n"
  written := by
    have spells : Ptx.SpellsItems [.var tableVariable]
        (((".const".toList ++ [' '] ++ (".u32".toList ++ ['\n'] ++ [])) ++ "t[2]".toList ++ [' '] ++
          "= \x7b1, 2\x7d".toList ++ [';']) ++ ['\n'] ++ []) :=
      .cons (.var (.cons (by decide) (.cons (by decide) .nil)) (by decide)) (by decide) .nil
    have comment : Ptx.Commented ("//two numbers\nt[2] = \x7b1, 2\x7d;\n".toList)
        ("\nt[2] = \x7b1, 2\x7d;\n".toList) :=
      .line (by decide : '\n' ∉ "two numbers".toList) (Ptx.commented_self (by decide))
    have plain : '/' ∉ ".version 7.0\n.target sm_70\n.const .u32".toList := by decide
    refine ⟨_, spells_plainText spells, ?_⟩
    rw [String.toList_append]
    exact comment.append_left plain
  padding := 1
  kind := .ptx
  name := []
  thread := 0
  files := {}

/-- The kernel, handed over by another thread as a text with a comment that holds a brace. -/
def kernelDelivery : Delivery where
  module := ⟨plainHeader, [.kernel idleKernel]⟩
  text := ".version 7.0\n.target sm_70\n.visible .entry k( )" ++ "/* \x7b */\x7b\n ret;\x7d\n"
  written := by
    have spells : Ptx.SpellsItems [.kernel idleKernel]
        (((".visible".toList ++ [' '] ++ (".entry".toList ++ [' '] ++ [])) ++ "k".toList ++ [] ++
          "( ".toList ++ ") ".toList ++ "\x7b\n ret;".toList ++ [] ++ ['\x7d']) ++ ['\n'] ++ []) :=
      .cons (.kernel (.cons (by decide) (.cons (by decide) .nil)) (by decide) (by decide) (by decide))
        (by decide) .nil
    have comment : Ptx.Commented ("/* \x7b */\x7b\n ret;\x7d\n".toList)
        (" \x7b\n ret;\x7d\n".toList) :=
      .block (by decide : ¬ ['*', '/'] <:+: " \x7b ".toList) (Ptx.commented_self (by decide))
    have plain : '/' ∉ ".version 7.0\n.target sm_70\n.visible .entry k( )".toList := by decide
    refine ⟨_, spells_plainText spells, ?_⟩
    rw [String.toList_append]
    exact comment.append_left plain
  padding := 0
  kind := .cubin
  name := []
  thread := 1
  files := {}

/-- A module with a table and one with a kernel are linked, and both are found in what is loaded. -/
theorem written_modules_load_two :
    let s := (fresh 1 (7, 0)).run
      [⟨0, {}, .init 0⟩, ⟨0, {}, .createContext 0 ⟨0⟩⟩, ⟨0, {}, .createLink⟩]
    let ds := [tableDelivery, kernelDelivery]
    (s.links.get? 0x1200 = some [] ∧ s.current 0 = .ok 0x1100) ∧
      delivered ds = ⟨["k"], [⟨"t", 8⟩]⟩ ∧
        ∃ image m s₂, (s.run (ds.map (·.event 0x1200))).completeLink 0x1200 = .ok image ∧
          (s.run (ds.map (·.event 0x1200))).loadImage 0 image = (.ok m, s₂) ∧
            (∃ f, s₂.function m (Utf8.encode "k") = .ok f ∧ s₂.functions.get? f = some ⟨m, "k"⟩) ∧
              ∃ address, s₂.global m (Utf8.encode "t") = .ok ⟨address, 8⟩ := by
  intro s ds
  have session : s.links.get? 0x1200 = some [] := rfl
  have current : s.current 0 = .ok 0x1100 := rfl
  have defined : delivered ds = ⟨["k"], [⟨"t", 8⟩]⟩ := by decide
  have distinct : (delivered ds).entries.Nodup := by
    rw [defined]
    decide
  have fits : s.nextAddress + reservedFor (delivered ds).globals < Text.wordBound := by
    rw [defined]
    decide
  obtain ⟨-, image, m, s₂, linked, loaded, function, known, global⟩ :=
    written_modules_load 1 (7, 0) _ 0 0x1100 0x1200 ds (by simp [ds]) session current distinct fits
  rw [defined] at function global
  obtain ⟨f, hf⟩ := (function _).2 ⟨"k", List.mem_singleton_self _, rfl⟩
  exact ⟨⟨session, current⟩, defined, image, m, s₂, linked, loaded, ⟨f, hf, known "k" f hf⟩,
    (global _ 8).2 ⟨"t", rfl, rfl⟩⟩

end GpuDriver.InProcess
