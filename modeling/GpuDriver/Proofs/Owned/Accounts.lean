import GpuDriver.Proofs.Owned.Drop
import GpuDriver.Proofs.Owned.Trade

/-!
# Accounts of a platform

A relation `Held objects s` between the owned objects and the native state is an account of a platform if
each single call keeps it in step: a call that makes something adds its object, a call that ends something
takes its object away whatever it is answered, and all others leave it. `LoadAccounts` speaks of the calls
that compiling and loading makes, `Accounts` of all that owned objects make. From these obligations
everything that the library does with owned objects is seen to keep the account, as long as every
temporary object is given up on every way out.
-/

namespace GpuDriver

open Owned
open Session (Object)

/-- The call only asks. -/
def Driver.Call.asks : Driver.Call → Bool
  | .version | .deviceCount | .device _ | .deviceAttribute .. | .currentContext | .currentDevice
  | .completeLink _ | .function .. | .global .. | .errorName _ | .errorText _ => true
  | _ => false

/-- The call gives an order that makes and ends nothing. -/
def Driver.Call.directs : Driver.Call → Bool
  | .init _ | .setCurrentContext _ | .launch _ => true
  | _ => false

/-- The call of the runtime compiler only asks. -/
def Nvrtc.Call.asks : Nvrtc.Call → Bool
  | .version | .architectures | .ptx _ | .log _ | .errorText _ => true
  | _ => false

/-- The context that a module loaded now remembers, from what the driver shows as current. -/
def Owned.Module.remembered (shown : Handle) : Option Handle :=
  if shown = 0 then none else some shown

/-- The object has a null handle, so that dropping it asks for nothing. -/
def Session.Object.isNull : Object → Bool
  | .context c => c.handle = 0
  | .link l => l.handle = 0
  | .module m => m.handle = 0
  | .primary _ | .program _ => false

section Obligations

variable {σ : Type} (p : Platform σ) (t : ThreadId) (Held : Multiset Object → σ → Prop)

/-- Each call that compiling and loading makes keeps the account. -/
structure LoadAccounts : Prop where
  /-- Questions change nothing. -/
  asks {files : FileTree} {c : Driver.Call} {objects : Multiset Object} {s : σ}
    (h : c.asks = true) (held : Held objects s) : Held objects (p.driver t files c s).2
  /-- Beginning a link session makes one. -/
  beginLink {files : FileTree} {objects : Multiset Object} {s : σ} (held : Held objects s) :
    Held (made (fun l => .link ⟨l, 0⟩) (p.driver t files .createLink s).1.toOption + objects)
      (p.driver t files .createLink s).2
  /-- A link session that is there can be given an image. -/
  addInput {files : FileTree} {l : LinkSession} {kind : ImageKind} {data name : Bytes}
    {objects : Multiset Object} {s : σ} (held : Held ({.link l} + objects) s) :
    Held ({.link l} + objects) (p.driver t files (.addLinkInput l.handle kind data name) s).2
  /-- Ending a link session uses it up. -/
  endLink {files : FileTree} {l : LinkSession} {objects : Multiset Object} {s : σ}
    (held : Held ({.link l} + objects) s) :
    Held objects (p.driver t files (.destroyLink l.handle) s).2
  /-- Loading an image makes a module of the context that is shown before. -/
  loadData {files : FileTree} {image : Bytes} {c : Handle} {objects : Multiset Object} {s s' : σ}
    (held : Held objects s) (shown : p.driver t files .currentContext s = (.ok c, s')) :
    Held (made (fun m => .module ⟨m, Module.remembered c⟩)
        (p.driver t files (.loadModuleData image) s').1.toOption + objects)
      (p.driver t files (.loadModuleData image) s').2
  /-- An object with a null handle can be let go of. -/
  letGo {o : Object} {objects : Multiset Object} {s : σ} (null : o.isNull = true)
    (held : Held ({o} + objects) s) : Held objects s
  /-- Questions to the runtime compiler change nothing. -/
  asksNvrtc {c : Nvrtc.Call} {objects : Multiset Object} {s : σ} (h : c.asks = true)
    (held : Held objects s) : Held objects (p.nvrtc c s).2
  /-- Creating a program makes one. -/
  createProgram {source octets : Bytes} {name : String} {objects : Multiset Object} {s : σ}
    (held : Held objects s) :
    Held (made (fun q => .program ⟨q, name⟩) (p.nvrtc (.create source octets) s).1.toOption +
      objects) (p.nvrtc (.create source octets) s).2
  /-- A program that is there can be compiled. -/
  compile {q : Program} {options : List Bytes} {objects : Multiset Object} {s : σ}
    (held : Held ({.program q} + objects) s) :
    Held ({.program q} + objects) (p.nvrtc (.compile q.handle options) s).2
  /-- Destroying a program uses it up. -/
  destroyProgram {q : Program} {objects : Multiset Object} {s : σ}
    (held : Held ({.program q} + objects) s) : Held objects (p.nvrtc (.destroy q.handle) s).2

/-- Each call that owned objects make keeps the account. -/
structure Accounts : Prop extends LoadAccounts p t Held where
  /-- Orders make and end nothing. -/
  directs {files : FileTree} {c : Driver.Call} {objects : Multiset Object} {s : σ}
    (h : c.directs = true) (held : Held objects s) : Held objects (p.driver t files c s).2
  /-- Creating a context makes one. -/
  createContext {files : FileTree} {flags : Nat} {d : Device} {objects : Multiset Object} {s : σ}
    (held : Held objects s) :
    Held (made (fun c => .context ⟨c, d⟩)
        (p.driver t files (.createContext flags d) s).1.toOption + objects)
      (p.driver t files (.createContext flags d) s).2
  /-- Destroying a context uses it up. -/
  destroyContext {files : FileTree} {c : Context} {objects : Multiset Object} {s : σ}
    (held : Held ({.context c} + objects) s) :
    Held objects (p.driver t files (.destroyContext c.handle) s).2
  /-- Retaining a primary context makes a retain. -/
  retain {files : FileTree} {d : Device} {objects : Multiset Object} {s : σ}
    (held : Held objects s) :
    Held (made (fun c => .primary { handle := c, device := d })
        (p.driver t files (.retainPrimary d) s).1.toOption + objects)
      (p.driver t files (.retainPrimary d) s).2
  /-- Releasing a primary context uses a retain up. -/
  release {files : FileTree} {c : PrimaryContext} {objects : Multiset Object} {s : σ}
    (held : Held ({.primary c} + objects) s) :
    Held objects (p.driver t files (.releasePrimary c.device) s).2
  /-- The number of images that a link session has counted does not matter. -/
  recount {l : LinkSession} {n : Nat} {objects : Multiset Object} {s : σ}
    (held : Held ({.link l} + objects) s) : Held ({.link { l with inputCount := n }} + objects) s
  /-- Loading a file makes a module of the context that is shown before. -/
  loadFile {files : FileTree} {path : Path} {c : Handle} {objects : Multiset Object} {s s' : σ}
    (held : Held objects s) (shown : p.driver t files .currentContext s = (.ok c, s')) :
    Held (made (fun m => .module ⟨m, Module.remembered c⟩)
        (p.driver t files (.loadModule path) s').1.toOption + objects)
      (p.driver t files (.loadModule path) s').2
  /-- Unloading a module uses it up. -/
  unload {files : FileTree} {m : Owned.Module} {objects : Multiset Object} {s : σ}
    (held : Held ({.module m} + objects) s) :
    Held objects (p.driver t files (.unloadModule m.handle) s).2

end Obligations

variable {σ : Type} {p : Platform σ} {t : ThreadId} {Held : Multiset Object → σ → Prop}

namespace Compile

open Act

theorem native_report (failure : Failure) (w : World σ) : (report failure w).native = w.native := by
  unfold report
  split <;> rfl

/-! ### The command-line compiler

It works on files only. -/

theorem keeps_makeWorkDirectory : Keeps Held (makeWorkDirectory p) := by
  refine .of_native_eq fun w => ?_
  unfold makeWorkDirectory
  split <;> rfl

theorem keeps_runCommand (c : Command) : Keeps Held (p.runCommand c) := by
  refine .of_native_eq fun w => ?_
  unfold Platform.runCommand
  split
  · rfl
  · split <;> rfl

theorem keeps_runNvcc (work : WorkFiles) (nvcc : Path) (options : List String) (source : String) :
    Keeps Held (runNvcc p work nvcc options source) := by
  refine ((keeps_writeFile _ _).mapError _).andThen fun _ => ?_
  exact (keeps_look _).andThen fun _ => (keeps_runCommand _).mapError _

theorem keeps_readResult (work : WorkFiles) (type : CodeType) :
    Keeps Held (readResult work type : Act σ Error Code) := by
  refine (keeps_look _).andThen fun files => ((keeps_ofExcept _).mapError _).andThen fun bytes => ?_
  cases type with
  | cubin => exact keeps_pure _
  | ptx =>
    dsimp only
    split
    · exact keeps_fail _
    · exact keeps_pure _

theorem keeps_withNvcc (source : String) (options : List String) (arch filename : String)
    (type : CodeType) : Keeps Held (withNvcc p source options arch filename type) := by
  refine (keeps_look _).andThen fun settings => keeps_makeWorkDirectory.andThen fun root => ?_
  dsimp only
  have removed (w : World σ) : (removeWorkDirectory root w).native = w.native := rfl
  refine ((keeps_runNvcc _ _ _ _).orElseClean removed).andThen fun finished => ?_
  split
  · exact (keeps_readResult _ _).thenClean removed
  · refine (keeps_change (native_report _)).andThen fun _ => ?_
    exact (keeps_warn _).andThen fun _ => keeps_fail _

end Compile

namespace LoadAccounts

open Act

variable (h : LoadAccounts p t Held) {paid : Multiset Object}
include h

/-! ### Calls -/

theorem describe {status : Status} {objects : Multiset Object} {w : World σ}
    (held : Held objects w.native) : Held objects (p.describe t status w).2.native :=
  h.asks rfl (h.asks rfl held)

/-- Asking for the texts of a failure makes no difference. -/
theorem held_call {c : Driver.Call} {w : World σ} (objects : Option c.Value → Multiset Object)
    (answered : Held (objects (p.driver t w.files c w.native).1.toOption)
      (p.driver t w.files c w.native).2) :
    Held (objects (p.call t c w).1.toOption) (p.call t c w).2.native := by
  unfold Platform.call Platform.ask
  rcases hc : p.driver t w.files c w.native with ⟨e | value, s⟩ <;> rw [hc] at answered
  · exact h.describe answered
  · exact answered

/-- A call trades what its answer says. -/
theorem call {c : Driver.Call} {got : Option c.Value → Multiset Object}
    (raw : ∀ files others s, Held (paid + others) s →
      Held (got (p.driver t files c s).1.toOption + others) (p.driver t files c s).2) :
    Trades Held paid (p.call t c) got :=
  fun others w held => h.held_call (fun a => got a + others) (raw w.files others w.native held)

theorem keeps_call {c : Driver.Call} (hc : c.asks = true) : Keeps Held (p.call t c) := by
  have asked : Trades Held 0 (p.call t c) fun _ => 0 := h.call fun _ _ _ => h.asks hc
  exact asked.keeps

/-- A call of the runtime compiler trades what its answer says. -/
theorem callNvrtc {c : Nvrtc.Call} {got : Option c.Value → Multiset Object}
    (raw : ∀ others s, Held (paid + others) s →
      Held (got (p.nvrtc c s).1.toOption + others) (p.nvrtc c s).2) :
    Trades Held paid (p.callNvrtc c) got := by
  intro others w held
  have answered := raw others w.native held
  unfold Platform.callNvrtc Platform.askNvrtc
  rcases hc : p.nvrtc c w.native with ⟨(code | crash) | value, s⟩ <;> rw [hc] at answered
  · exact h.asksNvrtc rfl answered
  · exact answered
  · exact answered

theorem keeps_callNvrtc {c : Nvrtc.Call} (hc : c.asks = true) : Keeps Held (p.callNvrtc c) := by
  have asked : Trades Held 0 (p.callNvrtc c) fun _ => 0 := h.callNvrtc fun _ _ => h.asksNvrtc hc
  exact asked.keeps

/-! ### Questions -/

theorem currentContext : Keeps Held (Driver.currentContext p t) :=
  (h.keeps_call rfl).andThen fun _ => keeps_pure _

theorem computeCapability (d : Device) : Keeps Held (Driver.computeCapability p t d) :=
  (h.keeps_call rfl).andThen fun _ => (h.keeps_call rfl).andThen fun _ => keeps_pure _

theorem version : Keeps Held (Nvrtc.version p) := h.keeps_callNvrtc rfl

theorem maxArchitecture : Keeps Held (Nvrtc.maxArchitecture p) := by
  refine (h.keeps_callNvrtc rfl).andThen fun known => ?_
  split
  · exact keeps_pure _
  · exact h.version.andThen fun _ => keeps_pure _

theorem defaultArchitecture (usesNvrtc : Bool) :
    Keeps Held (Compile.defaultArchitecture p t usesNvrtc) := by
  refine ((h.keeps_call rfl).mapError _).andThen fun d => ?_
  refine ((h.computeCapability d).mapError _).andThen fun (major, minor) => ?_
  dsimp only
  split
  · exact (h.maxArchitecture.mapError _).andThen fun _ => keeps_pure _
  · exact keeps_pure _

/-! ### Compiling -/

theorem createProgram_trades (source name : String) :
    Trades Held 0 (Program.create p source name) (made .program) := by
  refine (keeps_ofExcept _).bind (fun sourceOctets => ?_) rfl
  refine (keeps_ofExcept _).bind (fun nameOctets => ?_) rfl
  have created : Trades Held 0 (p.callNvrtc (.create sourceOctets nameOctets))
      (made fun q => .program ⟨q, name⟩) :=
    h.callNvrtc fun others _ held => h.createProgram (Multiset.zero_add others ▸ held)
  exact created.bind (fun q => .pure rfl) rfl

theorem dropProgram (program : Program) :
    World.Spends Held {.program program} (program.drop p) := by
  intro others w held
  have destroyed : Trades Held {.program program} (p.callNvrtc (.destroy program.handle))
      fun _ => 0 :=
    h.callNvrtc fun others _ held => (Multiset.zero_add others).symm ▸ h.destroyProgram held
  have spent := destroyed others w held
  rw [Multiset.zero_add] at spent
  exact program.warned_drop.native ▸ spent

/-- Compiling a program needs it and leaves it. -/
theorem compile_trades (program : Program) (options : List String) :
    Trades Held {.program program} (program.compile p options) fun _ => {.program program} :=
  (keeps_ofExcept _).bind (fun _ => h.callNvrtc fun _ _ => h.compile) rfl

/-- A program's compilation ends in one of several ways, none of which makes anything. -/
theorem compileProgram_trades (program : Program) (source filename : String)
    (options : List String) :
    Trades Held {.program program} (Compile.compileProgram p program source filename options)
      fun _ => {.program program} := by
  have logged : Keeps Held (program.log p) := h.keeps_callNvrtc rfl
  refine (h.compile_trades program options).attempt.bind (fun answer => ?_) rfl
  refine Keeps.trades ?_ _
  rcases answer with e | ⟨⟩
  · cases e with
    | crash => exact keeps_fail _
    | _ =>
      refine logged.attempt.andThen fun log => ?_
      dsimp only
      refine (keeps_change (Compile.native_report _)).andThen fun _ => ?_
      exact (keeps_warn _).andThen fun _ => keeps_fail _
  · refine ((h.keeps_callNvrtc rfl).mapError _).andThen fun ptx => ?_
    split
    · exact keeps_fail _
    · exact keeps_pure _

/-- The program of a compilation does not outlive it. -/
theorem withNvrtc (source : String) (options : List String) (arch filename : String) :
    Keeps Held (Compile.withNvrtc p source options arch filename) := by
  refine (keeps_look _).andThen fun settings => Trades.keeps ?_
  refine ((h.createProgram_trades source filename).mapError _).bind (fun program => ?_) rfl
  exact (h.compileProgram_trades program _ _ _).thenClean (h.dropProgram program)

theorem keeps_compile (source : String) (options : List String) (arch filename : String)
    (compiler : Compile.Compiler) :
    Keeps Held (Compile.compile p source options arch filename compiler) := by
  cases compiler with
  | nvrtc => exact (h.withNvrtc source options arch filename).andThen fun _ => keeps_pure _
  | nvcc type => exact Compile.keeps_withNvcc source options arch filename type

/-! ### Linking -/

theorem createLink_trades : Trades Held 0 (LinkSession.create p t) (made .link) := by
  have created : Trades Held 0 (p.call t .createLink) (made fun l => .link ⟨l, 0⟩) :=
    h.call fun _ others _ held => h.beginLink (Multiset.zero_add others ▸ held)
  exact created.bind (fun l => .pure rfl) rfl

/-- Adding an image needs the session and leaves it. -/
theorem add_trades (l : LinkSession) (kind : ImageKind) (data : Bytes) (name : String) :
    Trades Held {.link l} (l.add p t kind data name) fun _ => {.link l} := by
  refine (keeps_ofExcept _).bind (fun octets => ?_) rfl
  have added : Trades Held {.link l}
      (p.call t (.addLinkInput l.handle kind (LinkSession.handedOver kind data) octets))
      fun _ => {.link l} := h.call fun _ _ _ => h.addInput
  exact (added.mapError _).bind (fun _ => (keeps_pure _).trades _) rfl

theorem destroyLink_trades (l : LinkSession) :
    Trades Held {.link l} (l.destroy p t) fun _ => 0 :=
  l.destroy_eq p t ▸ h.call fun _ others _ held => (Multiset.zero_add others).symm ▸ h.endLink held

theorem dropLink (l : LinkSession) : World.Spends Held {.link l} (l.drop p t) := by
  intro others w held
  have spent := h.destroyLink_trades l others w held
  rw [Multiset.zero_add, l.destroy_eq] at spent
  by_cases null : l.handle = 0
  · rw [LinkSession.drop, if_pos null]
    exact h.letGo (o := .link l) (by simpa [Object.isNull] using null) held
  · exact (LinkSession.warned_drop null).native ▸ spent

/-- The session of a single text does not outlive the link. -/
theorem linkPtx (text name : String) : Keeps Held (Owned.linkPtx p t text name) := by
  refine Trades.keeps ((h.createLink_trades.mapError _).bind (fun l => ?_) rfl)
  have linked : Trades Held {.link l} (do
      let link ← l.addPtx p t text name
      (link.complete p t).mapError .call : Act σ Error Bytes) fun _ => {.link l} :=
    (h.add_trades l _ _ _).bind (fun _ => ((h.keeps_call rfl).mapError _).trades _) rfl
  refine (linked.orElseClean (h.dropLink l)).bind (fun image => ?_) rfl
  exact ((h.destroyLink_trades l).mapError _).bind (fun _ => (keeps_pure _).trades _) rfl

/-! ### Loading -/

theorem imageOf (code : Compile.Code) : Keeps Held (Compile.imageOf p t code) := by
  cases code with
  | ptx text => exact (h.linkPtx _ _).mapError _
  | cubin image => exact keeps_pure _

/-- Asking for the current context shows it or fails. -/
theorem currentContext_cases {objects : Multiset Object} {w : World σ}
    (held : Held objects w.native) :
    (∃ e w', Driver.currentContext p t w = (.error e, w') ∧ Held objects w'.native) ∨
      ∃ c s, p.driver t w.files .currentContext w.native = (.ok c, s) ∧
        Driver.currentContext p t w = (.ok (Module.remembered c), { w with native := s }) := by
  have kept := h.currentContext objects w held
  rcases hc : p.driver t w.files .currentContext w.native with ⟨e | c, s⟩
  · refine Or.inl ⟨(p.describe t e { w with native := s }).1,
      (p.describe t e { w with native := s }).2, ?_, ?_⟩
    · simp only [Driver.currentContext, bind, Act.andThen, Platform.call, Platform.ask, hc]
    · simpa only [Driver.currentContext, bind, Act.andThen, Platform.call, Platform.ask, hc]
        using kept
  · refine Or.inr ⟨c, s, rfl, ?_⟩
    simp only [Driver.currentContext, bind, Act.andThen, Platform.call, Platform.ask, hc]
    rfl

/-- A load makes a module that remembers the context shown before, if its call does. -/
theorem load_trades {act : Act σ CallError Handle}
    (raw : ∀ others shown s (w : World σ), Held others w.native →
      p.driver t w.files .currentContext w.native = (.ok shown, s) →
        Held (made (fun m => .module ⟨m, Module.remembered shown⟩)
            (act { w with native := s }).1.toOption + others) (act { w with native := s }).2.native) :
    Trades Held 0 (do
      let context ← Driver.currentContext p t
      let handle ← act
      return ⟨handle, context⟩ : Act σ CallError Owned.Module) (made .module) := by
  intro others w held
  rw [Multiset.zero_add] at held
  rcases h.currentContext_cases held with ⟨e, w', failed, held'⟩ | ⟨c, s, shown, found⟩
  · simp only [bind, Act.andThen, failed]
    simpa using held'
  · have loaded := raw others c s w held shown
    simp only [bind, Act.andThen, found]
    rcases hact : act { w with native := s } with ⟨e | m, w'⟩ <;> rw [hact] at loaded <;>
      exact loaded

theorem loadData_trades (image : Bytes) :
    Trades Held 0 (Module.loadData p t image) (made .module) := by
  refine h.load_trades fun others c s w held shown => ?_
  exact h.held_call (c := .loadModuleData image) (w := { w with native := s })
    (fun m => made (fun m => .module ⟨m, Module.remembered c⟩) m + others)
    (h.loadData held shown)

/-- **Compiling and loading makes a module or nothing**, whatever else there is. -/
theorem compileAndLoad_trades (source : String) (options : List String) (arch : Option String)
    (compiler : Compile.Compiler) :
    Trades Held 0 (Compile.compileAndLoad p t source options arch compiler) (made .module) := by
  have rest (arch : String) : Trades Held 0 (do
      let code ← Compile.compile p source options arch "kern.cu" compiler
      let image ← Compile.imageOf p t code
      (Module.loadData p t image).mapError fun e => .driver (.call e)) (made .module) := by
    refine (h.keeps_compile source options arch _ compiler).bind (fun code => ?_) rfl
    refine (h.imageOf code).bind (fun image => ?_) rfl
    exact (h.loadData_trades image).mapError _
  cases arch with
  | some arch => exact (keeps_pure _).bind rest rfl
  | none => exact (h.defaultArchitecture _).bind rest rfl

end LoadAccounts

namespace Accounts

open Act

variable (h : Accounts p t Held)
include h

theorem keeps_directs {c : Driver.Call} (hc : c.directs = true) : Keeps Held (p.call t c) := by
  have directed : Trades Held 0 (p.call t c) fun _ => 0 := h.call fun _ _ _ => h.directs hc
  exact directed.keeps

/-! ### Contexts -/

theorem createContext_trades (d : Device) (flags : Nat) :
    Trades Held 0 (Context.create p t d flags) (made .context) := by
  have created : Trades Held 0 (p.call t (.createContext flags d))
      (made fun c => .context ⟨c, d⟩) :=
    h.call fun _ others _ held => h.createContext (Multiset.zero_add others ▸ held)
  exact created.bind (fun c => .pure rfl) rfl

theorem destroyContext_trades (c : Context) :
    Trades Held {.context c} (c.destroy p t) fun _ => 0 :=
  c.destroy_eq p t ▸ h.call fun _ others _ held => (Multiset.zero_add others).symm ▸ h.destroyContext held

theorem dropContext (c : Context) : World.Spends Held {.context c} (c.drop p t) := by
  intro others w held
  have spent := h.destroyContext_trades c others w held
  rw [Multiset.zero_add, c.destroy_eq] at spent
  by_cases null : c.handle = 0
  · rw [Context.drop, if_pos null]
    exact h.letGo (o := .context c) (by simpa [Object.isNull] using null) held
  · exact (Context.warned_drop null).native ▸ spent

theorem retain_trades (d : Device) :
    Trades Held 0 (PrimaryContext.retain p t d) (made .primary) := by
  have retained : Trades Held 0 (p.call t (.retainPrimary d))
      (made fun c => .primary { handle := c, device := d }) :=
    h.call fun _ others _ held => h.retain (Multiset.zero_add others ▸ held)
  exact retained.bind (fun c => .pure rfl) rfl

theorem release_trades (c : PrimaryContext) :
    Trades Held {.primary c} (c.release p t) fun _ => 0 :=
  c.release_eq p t ▸ h.call fun _ others _ held => (Multiset.zero_add others).symm ▸ h.release held

theorem dropPrimary (c : PrimaryContext) : World.Spends Held {.primary c} (c.drop p t) := by
  intro others w held
  have spent := h.release_trades c others w held
  rw [Multiset.zero_add, c.release_eq] at spent
  exact c.warned_drop.native ▸ spent

theorem setCurrentContext (c : Option Handle) : Keeps Held (Driver.setCurrentContext p t c) :=
  h.keeps_directs rfl

/-! ### Modules -/

theorem loadModule_trades (path : Path) :
    Trades Held 0 (Module.load p t path) (made .module) := by
  refine (keeps_ofExcept _).bind (fun octets => ?_) rfl
  have loaded : Trades Held 0 (do
      let context ← Driver.currentContext p t
      let handle ← p.call t (.loadModule octets)
      return ⟨handle, context⟩ : Act σ CallError Owned.Module) (made .module) := by
    refine h.load_trades fun others c s w held shown => ?_
    exact h.held_call (c := .loadModule octets) (w := { w with native := s })
      (fun m => made (fun m => .module ⟨m, Module.remembered c⟩) m + others)
      (h.loadFile held shown)
  simpa only [mapError_bind, mapError_pure] using loaded.mapError Error.call

theorem unload_trades (m : Owned.Module) :
    Trades Held {.module m} (m.unload p t) fun _ => 0 :=
  m.unload_eq p t ▸ h.call fun _ others _ held => (Multiset.zero_add others).symm ▸ h.unload held

theorem dropModule (m : Owned.Module) : World.Spends Held {.module m} (m.drop p t) := by
  intro others w held
  have spent : Held others (p.ask t (.unloadModule m.handle) w).2.native := h.unload held
  by_cases null : m.handle = 0
  · rw [Module.drop, if_pos null]
    exact h.letGo (o := .module m) (by simpa [Object.isNull] using null) held
  · obtain warned | ⟨status, warned⟩ := Module.warned_drop null
    · exact warned.native ▸ spent
    · exact warned.native ▸ h.describe spent

theorem function (m : Owned.Module) (name : String) : Keeps Held (m.function p t name) := by
  refine (keeps_ofExcept _).andThen fun octets => ?_
  exact ((h.keeps_call rfl).mapError _).andThen fun _ => keeps_pure _

theorem global (m : Owned.Module) (name : String) : Keeps Held (m.global p t name) :=
  (keeps_ofExcept _).andThen fun _ => (h.keeps_call rfl).mapError _

end Accounts

end GpuDriver
