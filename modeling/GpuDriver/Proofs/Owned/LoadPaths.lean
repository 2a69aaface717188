import GpuDriver.Proofs.Owned.Success

/-!
# Two ways to load a text

A PTX text can be loaded as it is, as a cubin would be, or linked first. Both ways read the same text from
it, which is the text without the NULs at its end, and a line feed behind that changes nothing
(`Fits.newline`). So both load the same module into the same books, unless the text defines a kernel twice
(`load_paths_agree`).
-/

namespace GpuDriver

open Owned InProcess InProcess.State

/-- Links a PTX text in a session of its own and loads the image. -/
def Owned.linkAndLoad {σ : Type} (p : Platform σ) (t : ThreadId) (text name : String) :
    Act σ Error Owned.Module := do
  let image ← linkPtx p t text name
  (Module.loadData p t image).mapError .call

/-! ### Images that fit -/

/-- The image holds the module `text`, and its variables can be placed where device memory is left. -/
structure InProcess.Fits (s : State) (image : Bytes) (text : String)
    (globals : Table String Allocation) (cursor : Address) : Prop where
  read : imageText? image = some text
  valid : Ptx.isModule text = true
  placed : place s.nextAddress .empty (Ptx.symbols text).globals = (some globals, cursor)

section Newline

variable {s s' : State} {image : Bytes} {text : String} {globals : Table String Allocation}
  {cursor : Address}

theorem InProcess.imageText?_newline (valid : Ptx.isModule text = true) :
    imageText? (Utf8.encode (text ++ "\n")) = some (text ++ "\n") :=
  imageText?_encode_of_isModule (by rw [Ptx.isModule_newline, valid]) (by simp)

/-- What is joined from a text fits if the text does. -/
theorem InProcess.Fits.newline (h : Fits s image text globals cursor)
    (memory : s'.nextAddress = s.nextAddress) :
    Fits s' (Utf8.encode (text ++ "\n")) (text ++ "\n") globals cursor where
  read := imageText?_newline h.valid
  valid := by rw [Ptx.isModule_newline, h.valid]
  placed := by rw [Ptx.symbols_newline, memory, h.placed]

theorem InProcess.Fits.of_newline {read : String}
    (h : Fits s' (Utf8.encode (text ++ "\n")) read globals cursor) (valid : Ptx.isModule text = true)
    (memory : s'.nextAddress = s.nextAddress) (holds : imageText? image = some text) :
    Fits s image text globals cursor := by
  obtain rfl : text ++ "\n" = read := Option.some.inj ((imageText?_newline valid).symm.trans h.read)
  have placed := h.placed
  rw [Ptx.symbols_newline, memory] at placed
  exact ⟨holds, valid, placed⟩

end Newline

/-- What is found in a module does not depend on the books that it was added to. -/
theorem InProcess.found_alike {s s' : State} (up : s.initialized = true) (up' : s'.initialized = true)
    (c : Handle) (globals : Table String Allocation) (entries : List String) (key : Bytes) :
    let loaded := addModule s c globals entries
    let loaded' := addModule s' c globals entries
    ((∃ f, loaded.2.function loaded.1 key = .ok f) ↔ ∃ f, loaded'.2.function loaded'.1 key = .ok f) ∧
      loaded.2.global loaded.1 key = loaded'.2.global loaded'.1 key :=
  ⟨(exists_function_addModule up c globals entries key).trans
      (exists_function_addModule up' c globals entries key).symm,
    (global_addModule up c globals entries key).trans
      (global_addModule up' c globals entries key).symm⟩

section InProcess

variable {ν : Type} {system : System} {t : ThreadId} {w : World (Bench ν)} {c : Handle}
  {ptx name : String} (current : w.native.driver.current t = .ok c)

include current

/-- An image is loaded exactly if it fits. -/
theorem Owned.Module.exists_loadData_iff {image : Bytes} :
    (∃ m, (Module.loadData (Platform.inProcess system) t image w).1 = .ok m) ↔
      ∃ text globals cursor, Fits w.native.driver image text globals cursor := by
  constructor
  · rintro ⟨m, loaded⟩
    rw [loadData, Act.bind_of_ok (currentContext_of_current current),
      Act.fst_bind_pure_eq_ok_iff] at loaded
    obtain ⟨h, answered, -⟩ := loaded
    have answered : (w.native.driver.loadImage t image).1 = .ok h :=
      Platform.call_fst_eq_ok_iff.1 answered
    obtain ⟨-, text, globals, cursor, -, read, valid, placed, -⟩ :=
      loadImage_eq_ok_iff.1 (Prod.ext answered rfl)
    exact ⟨text, globals, cursor, read, valid, placed⟩
  · rintro ⟨text, globals, cursor, h⟩
    exact ⟨_, congrArg Prod.fst (loadData_of_isModule system current h.read h.valid h.placed)⟩

/-- Only a text that is read as a module is linked. -/
theorem Owned.exists_of_linkPtx (clean : '\x00' ∉ name.toList) {image : Bytes}
    (linked : (linkPtx (Platform.inProcess system) t ptx name w).1 = .ok image) :
    ∃ text, imageText? (Utf8.encode ptx) = some text ∧ Ptx.isModule text = true := by
  let l : LinkSession := ⟨w.native.driver.lastHandle + handleStep, 0⟩
  let s₁ : State := { w.native.driver with
    lastHandle := l.handle
    links := w.native.driver.links.insert l.handle [] }
  have created : LinkSession.create (Platform.inProcess system) t w = (.ok l, w.withDriver s₁) :=
    LinkSession.create_of_current current
  rcases answered : s₁.addLinkInput l.handle .ptx (LinkSession.handedOver .ptx (Utf8.encode ptx))
      (Utf8.encode name) with ⟨status | u, s₂⟩
  · have refused : l.addPtx (Platform.inProcess system) t ptx name (w.withDriver s₁) =
        (.error (.call (.ofStatus status)), w.withDriver s₁) :=
      LinkSession.add_of_addLinkInput_error (w := w.withDriver s₁) clean answered
    rw [linkPtx, Act.bind_of_ok (Act.mapError_of_ok created),
      Act.bind_of_error (Act.orElseClean_of_error (Act.bind_of_error refused))] at linked
    cases linked
  · obtain ⟨-, -, text, -, -, read, valid, -⟩ := addLinkInput_eq_ok_iff.1 answered
    exact ⟨text, (imageText?_handedOver ..).symm.trans read, valid⟩

section Clean

variable (clean : '\x00' ∉ name.toList)

include clean

variable (system) in
/-- A text that fits is linked and loaded unless it defines a kernel twice. -/
theorem Owned.linkAndLoad_of_fits {text : String} {globals : Table String Allocation}
    {cursor : Address} (h : Fits w.native.driver (Utf8.encode ptx) text globals cursor)
    (distinct : (Ptx.symbols text).entries.Nodup) : ∃ s : State, s.initialized = true ∧
      let loaded := addModule s c globals (Ptx.symbols text).entries
      linkAndLoad (Platform.inProcess system) t ptx name w =
        (.ok ⟨loaded.1, Module.remembered c⟩, w.withDriver loaded.2) := by
  obtain ⟨links, linked⟩ := linkPtx_of_isModule system current h.read h.valid clean
  rw [if_pos distinct] at linked
  let s : State := { w.native.driver with
    lastHandle := w.native.driver.lastHandle + handleStep
    links }
  have fits : Fits s _ _ globals cursor := h.newline rfl
  have loaded := Module.loadData_of_isModule system (w := w.withDriver s) current fits.read fits.valid
    fits.placed
  rw [Ptx.symbols_newline] at loaded
  exact ⟨{ s with nextAddress := cursor }, (current_eq_ok_iff.1 current).1,
    (Act.bind_of_ok linked).trans (Act.mapError_of_ok loaded)⟩

/-- A text that defines no kernel twice is linked and loaded exactly if it fits. -/
theorem Owned.exists_linkAndLoad_iff (distinct : (Ptx.symbols (trimNuls ptx)).entries.Nodup) :
    (∃ m, (linkAndLoad (Platform.inProcess system) t ptx name w).1 = .ok m) ↔
      ∃ text globals cursor, Fits w.native.driver (Utf8.encode ptx) text globals cursor := by
  constructor
  · rintro ⟨m, loaded⟩
    rcases answered : linkPtx (Platform.inProcess system) t ptx name w with ⟨e | image, w'⟩
    · rw [linkAndLoad, Act.bind_of_error answered] at loaded
      cases loaded
    -- what was linked is a module, and then the link is known in full
    obtain ⟨text, read, valid⟩ := exists_of_linkPtx current clean (congrArg Prod.fst answered)
    obtain ⟨links, linked⟩ := linkPtx_of_isModule system current read valid clean
    rw [if_pos (eq_trimNuls_of_imageText? read ▸ distinct)] at linked
    rw [linkAndLoad, Act.bind_of_ok linked, Act.fst_mapError_eq_ok_iff] at loaded
    let s : State := { w.native.driver with
      lastHandle := w.native.driver.lastHandle + handleStep
      links }
    obtain ⟨_, globals, cursor, h⟩ :=
      (Module.exists_loadData_iff (w := w.withDriver s) current).1 ⟨m, loaded⟩
    exact ⟨text, globals, cursor, h.of_newline valid rfl read⟩
  · rintro ⟨text, globals, cursor, h⟩
    obtain ⟨s, -, loaded⟩ := linkAndLoad_of_fits system current clean h
      (eq_trimNuls_of_imageText? h.read ▸ distinct)
    exact ⟨_, congrArg Prod.fst loaded⟩

end Clean

end InProcess

/-- **Two ways to load a text.** On books with a current context, a text that is loaded as it is and one
that is linked first, under a name without a NUL, are read alike: without the NULs at their end. If no
kernel is defined twice, both are loaded or neither, and in what is loaded every thread finds the same
kernels and the same variables, with their sizes and places. A module that defines one twice is not
linked. -/
theorem load_paths_agree {ν : Type} (system : System) {t : ThreadId} {w : World (Bench ν)}
    {c : Handle} (current : w.native.driver.current t = .ok c)
    (ptx name : String) (clean : '\x00' ∉ name.toList) :
    let p : Platform (Bench ν) := Platform.inProcess system
    let direct := Module.loadData p t (Utf8.encode ptx) w
    let linked := linkAndLoad p t ptx name w
    let entries := (Ptx.symbols (trimNuls ptx)).entries
    (entries.Nodup →
      ((∃ m, direct.1 = .ok m) ↔ ∃ m, linked.1 = .ok m) ∧
      ∀ m m', direct.1 = .ok m → linked.1 = .ok m' →
        (∀ u key, (∃ f, (m.function p u key direct.2).1 = .ok f) ↔
          ∃ f, (m'.function p u key linked.2).1 = .ok f) ∧
        ∀ u key a, (m.global p u key direct.2).1 = .ok a ↔ (m'.global p u key linked.2).1 = .ok a) ∧
    (Ptx.isModule (trimNuls ptx) = true → ¬ entries.Nodup →
      (linkPtx p t ptx name w).1 = .error (.call (.ofStatus .invalidImage))) := by
  intro p direct linked entries
  have up : w.native.driver.initialized = true := (current_eq_ok_iff.1 current).1
  refine ⟨fun distinct => ⟨?_, ?_⟩, ?_⟩
  · exact (Module.exists_loadData_iff current).trans
      (exists_linkAndLoad_iff current clean distinct).symm
  · intro m m' loaded loaded'
    obtain ⟨text, globals, cursor, h⟩ := (Module.exists_loadData_iff current).1 ⟨m, loaded⟩
    have here : direct = _ := Module.loadData_of_isModule system current h.read h.valid h.placed
    obtain ⟨s, up', there⟩ := linkAndLoad_of_fits system current clean h
      (eq_trimNuls_of_imageText? h.read ▸ distinct)
    have there : linked = _ := there
    rw [here] at loaded
    rw [there] at loaded'
    cases loaded
    cases loaded'
    have alike := found_alike (s := { w.native.driver with nextAddress := cursor }) up up' c globals
      (Ptx.symbols text).entries
    rw [here, there]
    constructor
    · intro u key
      rw [Module.exists_function_iff, Module.exists_function_iff]
      exact and_congr_right fun _ => (alike (Utf8.encode key)).1
    · intro u key a
      rw [Module.fst_global_eq_ok_iff, Module.fst_global_eq_ok_iff]
      exact and_congr_right fun _ => Eq.congr_left (alike (Utf8.encode key)).2
  · intro valid twice
    obtain ⟨links, linked⟩ :=
      linkPtx_of_isModule system current (imageText?_encode_of_trimNuls valid) valid clean
    rw [if_neg twice] at linked
    exact congrArg Prod.fst linked

/-! ### Texts that end with a NUL -/

/-- A module that defines one kernel twice, the second time with a NUL behind its name. -/
def nulModule : String := ".version 7.0\n.target sm_70\n.entry k\n.entry k\x00"

/-- What is read from it. -/
def twiceModule : String := ".version 7.0\n.target sm_70\n.entry k\n.entry k"

theorem trimNuls_nulModule : trimNuls nulModule = twiceModule := by
  decide

theorem symbols_nulModule : Ptx.symbols nulModule = ⟨["k", "k\x00"], []⟩ := by
  rw [Ptx.symbols_eq, Ptx.bodyOf_eq_self (by decide)]
  rfl

theorem symbols_twiceModule : Ptx.symbols twiceModule = ⟨["k", "k"], []⟩ := by
  rw [Ptx.symbols_eq, Ptx.bodyOf_eq_self (by decide)]
  rfl

theorem isModule_twiceModule : Ptx.isModule twiceModule = true := by
  rw [Ptx.isModule_eq, Ptx.bodyOf_eq_self (by decide)]
  decide

theorem isModule_trimNuls_nulModule : Ptx.isModule (trimNuls nulModule) = true := by
  rw [trimNuls_nulModule, isModule_twiceModule]

theorem imageText?_nulModule : imageText? (Utf8.encode nulModule) = some twiceModule := by
  rw [imageText?_encode_of_trimNuls isModule_trimNuls_nulModule, trimNuls_nulModule]

/-- The world after a run that leaves a current context. -/
def contextWorld : World (Bench Unit) :=
  { native := { driver := (fresh 1 (7, 0)).run contextRun, vendor := () } }

/-- A module behind which there is a NUL is loaded in either way, and its variable is found in the same
place; one that defines a kernel twice when its NUL is gone is not linked. -/
theorem load_paths_agree_octet :
    let p : Platform (Bench Unit) := Platform.inProcess .bare
    let ptx := Ptx.octetModule ++ "\x00"
    let linked := linkAndLoad p 0 ptx "x.ptx" contextWorld
    ((Module.loadData p 0 (Utf8.encode ptx) contextWorld).1 = .ok ⟨0x1200, some 0x1100⟩ ∧
      ∃ m, linked.1 = .ok m ∧ (m.global p 0 "x" linked.2).1 = .ok ⟨0x7f0000000000, 1⟩) ∧
    (linkPtx p 0 nulModule "k.ptx" contextWorld).1 = .error (.call (.ofStatus .invalidImage)) := by
  intro p ptx linked
  have current : contextWorld.native.driver.current 0 = .ok 0x1100 := rfl
  have trimmed : trimNuls ptx = Ptx.octetModule := by decide
  constructor
  · have valid : Ptx.isModule (trimNuls ptx) = true := by
      rw [trimmed, (Ptx.linkable_of_mem (by decide) "").valid]
    have symbols : Ptx.symbols (trimNuls ptx) = ⟨[], [⟨"x", 1⟩]⟩ := by
      rw [trimmed, symbols_octetModule]
    have placed : place contextWorld.native.driver.nextAddress .empty
        (Ptx.symbols (trimNuls ptx)).globals =
          (some (Table.empty.insert "x" ⟨0x7f0000000000, 1⟩), 0x7f0000000100) := by
      rw [symbols]
      exact (place_of_fits (by decide) .empty : place 0x7f0000000000 .empty [⟨"x", 1⟩] = _)
    have direct := Module.loadData_of_isModule .bare current
      (imageText?_encode_of_trimNuls valid) valid placed
    obtain ⟨both, alike⟩ := (load_paths_agree .bare current ptx "x.ptx"
      (by decide)).1 (by rw [symbols]; decide)
    obtain ⟨m, loaded⟩ := both.1 ⟨_, congrArg Prod.fst direct⟩
    refine ⟨congrArg Prod.fst direct, m, loaded, ?_⟩
    rw [← (alike _ m (congrArg Prod.fst direct) loaded).2, direct, Module.fst_global_eq_ok_iff]
    have listed : symbol (Table.empty.insert "x" (⟨0x7f0000000000, 1⟩ : Allocation)) (Utf8.encode "x") =
        .ok ⟨0x7f0000000000, 1⟩ := symbol_eq_ok_iff.2 ⟨"x", rfl, Table.get?_insert_self ..⟩
    exact ⟨by decide, (global_addModule rfl ..).trans listed⟩
  · have twice : ¬ (Ptx.symbols (trimNuls nulModule)).entries.Nodup := by
      rw [trimNuls_nulModule, symbols_twiceModule]
      decide
    exact (load_paths_agree .bare current nulModule "k.ptx"
      (by decide)).2 isModule_trimNuls_nulModule twice

/-- The two ways differ if the NULs at the end of a text count for its kernels: a text that names a kernel
twice, the second time with a NUL, can be loaded and not linked. -/
theorem exists_load_paths_differ :
    ¬ ∀ (system : System) (t : ThreadId) (w : World (Bench Unit)) (c : Handle) (ptx name : String),
      w.native.driver.current t = .ok c → '\x00' ∉ name.toList → (Ptx.symbols ptx).entries.Nodup →
        ((∃ m, (Module.loadData (Platform.inProcess system) t (Utf8.encode ptx) w).1 = .ok m) ↔
          ∃ m, (linkAndLoad (Platform.inProcess system) t ptx name w).1 = .ok m) := by
  intro h
  have current : contextWorld.native.driver.current 0 = .ok 0x1100 := rfl
  have clean : '\x00' ∉ "k.ptx".toList := by decide
  have distinct : (Ptx.symbols nulModule).entries.Nodup := by
    rw [symbols_nulModule]
    decide
  have twice : ¬ (Ptx.symbols twiceModule).entries.Nodup := by
    rw [symbols_twiceModule]
    decide
  have fits : Fits contextWorld.native.driver (Utf8.encode nulModule) twiceModule .empty
      contextWorld.native.driver.nextAddress := by
    refine ⟨imageText?_nulModule, isModule_twiceModule, ?_⟩
    rw [symbols_twiceModule]
    rfl
  obtain ⟨m, loaded⟩ := (h .bare 0 contextWorld 0x1100 nulModule "k.ptx" current clean distinct).1
    ((Module.exists_loadData_iff current).2 ⟨_, _, _, fits⟩)
  obtain ⟨links, linked⟩ :=
    linkPtx_of_isModule .bare current imageText?_nulModule isModule_twiceModule clean
  rw [linkAndLoad, Act.bind_of_error (linked.trans (by rw [if_neg twice]))] at loaded
  cases loaded

end GpuDriver
