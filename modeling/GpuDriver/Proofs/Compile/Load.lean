import GpuDriver.Proofs.InProcess.Programs
import GpuDriver.Proofs.Session.Books

/-!
# Compiling and loading is all or nothing

On the in-process driver and the in-process runtime compiler, compiling and loading a source leaves
nothing behind but the module that it answers with: no link session, no program, and in a failure no
module, wherever it failed (`Compile.compileAndLoad_all_or_nothing`). All that is temporary gets new
handles, so what was there before is told apart from it by its handle (`Beside`).
-/

namespace GpuDriver

open Owned InProcess InProcess.State
open Session (Object)

namespace InProcess

/-! ### What is new -/

/-- The table `now` is the table `before` together with keys above `last`, one for each that `count`
counts. -/
structure Beside {ν : Type} (before now : Table Handle ν) (last : Handle) (count : Handle → Nat) :
    Prop where
  /-- What was there is there as it was. -/
  old (k : Handle) (h : k ≤ last) : now.get? k = before.get? k
  /-- What is new is counted. -/
  new (k : Handle) (h : last < k) : count k = (now.contains k).toNat
  /-- What is counted is new. -/
  above (k : Handle) (h : 0 < count k) : last < k

namespace Beside

variable {ν : Type} {before now : Table Handle ν} {last k : Handle} {count count' : Handle → Nat}

theorem refl (before : Table Handle ν) (numbered : ∀ k ∈ before.keys, k ≤ last) :
    Beside before before last fun _ => 0 where
  old _ _ := rfl
  new k h := by
    cases hk : before.contains k with
    | false => rfl
    | true => exact absurd (numbered k (Table.mem_keys_iff.2 hk)) (Nat.not_le.2 h)
  above _ h := absurd h (Nat.lt_irrefl 0)

/-- A new key that nobody has yet. -/
theorem insert (h : Beside before now last count) (hk : last < k) (absent : now.contains k = false)
    (one : ∀ k', count' k' = count k' + if k = k' then 1 else 0) (v : ν) :
    Beside before (now.insert k v) last count' where
  old k' hk' := by rw [Table.get?_insert_of_ne (by lia), h.old k' hk']
  new k' hk' := by
    rw [one, h.new k' hk', Table.contains_insert]
    by_cases heq : k' = k
    · simp [heq, absent]
    · simp [heq, Ne.symm heq]
  above k' hk' := by
    rw [one] at hk'
    by_cases heq : k = k'
    · exact heq ▸ hk
    · exact h.above k' (by simpa [heq] using hk')

/-- Another value for a new key. -/
theorem update (h : Beside before now last count) (hk : 0 < count k) (v : ν) :
    Beside before (now.insert k v) last count where
  old k' hk' := by
    have := h.above k hk
    rw [Table.get?_insert_of_ne (by lia), h.old k' hk']
  new k' hk' := by
    rw [h.new k' hk', Table.contains_insert]
    by_cases heq : k' = k
    · have there := h.new k (h.above k hk)
      cases hb : now.contains k with
      | false => simp [hb] at there; lia
      | true => simp [heq, hb]
    · simp [heq]
  above := h.above

/-- A new key goes. -/
theorem erase (h : Beside before now last count)
    (one : ∀ k', count k' = count' k' + if k = k' then 1 else 0) :
    Beside before (now.erase k) last count' where
  old k' hk' := by
    have new : last < k := h.above k (by simp [one])
    rw [Table.get?_erase, if_neg (by lia), h.old k' hk']
  new k' hk' := by
    have there := h.new k' hk'
    rw [one] at there
    rw [Table.contains_erase]
    by_cases heq : k' = k
    · have := (now.contains k').toNat_le
      simp only [heq, if_true] at there this ⊢
      simp only [Bool.toNat_false]
      lia
    · simpa [heq, Ne.symm heq] using there
  above k' hk' := h.above k' (by rw [one]; lia)

/-- What is counted is there. -/
theorem contains (h : Beside before now last count) (hk : 0 < count k) : now.contains k = true := by
  have there := h.new k (h.above k hk)
  cases hb : now.contains k with
  | false => simp [hb] at there; lia
  | true => rfl

/-- What is not counted is as it was. -/
theorem get?_eq (h : Beside before now last count) (numbered : ∀ k ∈ before.keys, k ≤ last)
    (hk : count k = 0) : now.get? k = before.get? k := by
  rcases Nat.lt_or_ge last k with new | old
  · have gone : now.contains k = false := by
      have there := h.new k new
      rw [hk] at there
      cases hb : now.contains k with
      | false => rfl
      | true => simp [hb] at there
    have never : k ∉ before.keys := fun hmem => absurd (numbered k hmem) (Nat.not_le.2 new)
    rw [Table.mem_keys_iff] at never
    simp only [Table.contains, Bool.not_eq_true, Option.isSome_eq_false_iff, Option.isNone_iff_eq_none]
      at gone never
    rw [gone, never]
  · exact h.old k old

end Beside

end InProcess

/-! ### The account -/

/-- While the objects `objects` exist that were made since, the thread `t` has left everything else on
the bench as it was in `b`. -/
structure Spared {ν : Type} (t : ThreadId) (b : Bench ν) (objects : Multiset Object)
    (s : Bench ν) : Prop where
  /-- The books are in order. -/
  sound : Integrity s.driver
  /-- The programs are in order. -/
  numbered : s.compiler.Numbered
  /-- The contexts are as they were. -/
  contexts : s.driver.contexts = b.driver.contexts
  /-- The primary contexts are retained as they were. -/
  primaries : s.driver.primaries = b.driver.primaries
  /-- Every thread works in the contexts that it worked in. -/
  stackOf : s.driver.stackOf = b.driver.stackOf
  /-- Nothing was launched. -/
  launches : s.driver.launches = b.driver.launches
  /-- The driver was not started. -/
  initialized : s.driver.initialized = b.driver.initialized
  /-- The link sessions are those of before and those of the objects. -/
  links : Beside b.driver.links s.driver.links b.driver.lastHandle
    fun l => owned (.link l) objects
  /-- The modules are those of before and those of the objects. -/
  modules : Beside b.driver.modules s.driver.modules b.driver.lastHandle
    fun m => owned (.module m) objects
  /-- The programs are those of before and those of the objects. -/
  programs : Beside b.compiler.programs s.compiler.programs b.compiler.lastHandle
    fun q => owned (.program q) objects
  /-- Handles went up. -/
  driver_le : b.driver.lastHandle ≤ s.driver.lastHandle
  /-- Handles of programs went up. -/
  compiler_le : b.compiler.lastHandle ≤ s.compiler.lastHandle
  /-- A new module is owned by the current context. -/
  owner {m : Owned.Module} (h : .module m ∈ objects) : ∃ loaded,
    b.driver.current t = .ok loaded.context ∧ m.context = some loaded.context ∧
      s.driver.modules.get? m.handle = some loaded

namespace Spared

variable {ν : Type} {t : ThreadId} {b s : Bench ν} {objects : Multiset Object} {s' : State}
  {files : FileTree} {call : Driver.Call}

theorem refl (t : ThreadId) (sound : Integrity b.driver) (numbered : b.compiler.Numbered) :
    Spared t b 0 b where
  sound := sound
  numbered := numbered
  contexts := rfl
  primaries := rfl
  stackOf := rfl
  launches := rfl
  initialized := rfl
  links := .refl _ fun _ h => (sound.key_bounds (k := .link) h).2
  modules := .refl _ fun _ h => (sound.key_bounds (k := .module) h).2
  programs := .refl _ numbered
  driver_le := le_rfl
  compiler_le := le_rfl
  owner h := by simp at h

/-- The current context is the one of before. -/
theorem current_eq (h : Spared t b objects s) (u : ThreadId) :
    s.driver.current u = b.driver.current u := by
  simp only [current, requireInit, top, h.contexts, h.stackOf, h.initialized]

/-- The next handle is above all those of before. -/
theorem lt_next (h : Spared t b objects s) :
    b.driver.lastHandle < s.driver.lastHandle + handleStep := by
  have := h.driver_le
  have := handleStep_pos
  lia

theorem asks (h : Spared t b objects s) {c : Driver.Call} (hc : c.asks = true) :
    Spared t b objects (Bench.inProcessDriver t files c s).2 := by
  cases c <;> first | exact h | cases hc

theorem asksNvrtc (h : Spared t b objects s) {c : Nvrtc.Call} (hc : c.asks = true) :
    Spared t b objects (Bench.inProcessNvrtc c s).2 := by
  cases c <;> first | exact h | cases hc

/-! ### Link sessions -/

theorem beginLink (h : Spared t b objects s) (files : FileTree) :
    Spared t b (made (fun l => .link ⟨l, 0⟩)
        (Bench.inProcessDriver t files .createLink s).1.toOption + objects)
      (Bench.inProcessDriver t files .createLink s).2 := by
  simp only [Bench.inProcessDriver, State.step]
  rcases hl : s.driver.createLink t with ⟨e | l, s'⟩
  · obtain rfl := keeps_createLink _ _ _ _ hl
    exact (Multiset.zero_add objects).symm ▸ h
  · obtain ⟨⟨c, current⟩, rfl, rfl⟩ := createLink_eq_ok_iff.1 hl
    have absent : s.driver.links.contains (s.driver.lastHandle + handleStep) = false := by
      by_contra there
      exact h.sound.ne_next (k := .link) (Table.mem_keys_iff.2 (eq_true_of_ne_false there)) rfl
    exact { h with
      sound := h.sound.change (.beginLink (t := t) (current_eq_ok_iff.1 current).1)
      links := h.links.insert h.lt_next absent (fun k => by simp [Object.resource]) _
      modules := by simpa [Object.resource] using h.modules
      programs := by simpa [Object.resource] using h.programs
      driver_le := h.lt_next.le
      owner := fun hm => h.owner (by simpa using hm) }

theorem addInput {l : LinkSession} (h : Spared t b ({.link l} + objects) s) (files : FileTree)
    (kind : ImageKind) (data name : Bytes) :
    Spared t b ({.link l} + objects)
      (Bench.inProcessDriver t files (.addLinkInput l.handle kind data name) s).2 := by
  simp only [Bench.inProcessDriver, State.step]
  rcases hl : s.driver.addLinkInput l.handle kind data name with ⟨e | u, s'⟩
  · obtain rfl := keeps_addLinkInput _ _ _ _ _ _ _ hl
    exact h
  · obtain ⟨up, inputs, text, alive, -, read, valid, rfl⟩ := addLinkInput_eq_ok_iff.1 hl
    have counted : 0 < owned (.link l.handle) ({.link l} + objects) := by
      simp [Object.resource]
    have hc : Change t s.driver (.addLinkInput l.handle kind data name) _ :=
      .extendLink up alive read valid
    exact { h with
      sound := h.sound.change hc
      links := h.links.update counted _ }

theorem endLink {l : LinkSession} (h : Spared t b ({.link l} + objects) s) (files : FileTree) :
    Spared t b objects (Bench.inProcessDriver t files (.destroyLink l.handle) s).2 := by
  have alive : l.handle ∈ s.driver.links.keys :=
    Table.mem_keys_iff.2 (h.links.contains (by simp [Object.resource]))
  have up : s.driver.initialized = true := by
    by_contra down
    simp [(h.sound.blank (by simpa using down)).links] at alive
  have ended := (destroyLink_eq_ok_iff (u := ())).2 ⟨up, alive, rfl⟩
  simp only [Bench.inProcessDriver, State.step, ended]
  exact { h with
    sound := h.sound.change (.endLink (t := t) up alive)
    links := h.links.erase fun k => by simp [Object.resource]
    modules := by simpa [Object.resource] using h.modules
    programs := by simpa [Object.resource] using h.programs
    owner := fun hm => h.owner (Multiset.mem_add.2 (Or.inr hm)) }

/-! ### Modules -/

theorem loadData (h : Spared t b objects s) (files : FileTree) (image : Bytes) {shown : Handle}
    (top : s.driver.currentContext t = .ok shown) :
    Spared t b (made (fun m => .module ⟨m, Module.remembered shown⟩)
        (Bench.inProcessDriver t files (.loadModuleData image) s).1.toOption + objects)
      (Bench.inProcessDriver t files (.loadModuleData image) s).2 := by
  have hc := change_loadImage (s := s.driver) (t := t) (.loadModuleData image) image
  simp only [Bench.inProcessDriver, State.step]
  rcases hl : s.driver.loadImage t image with ⟨e | m, s'⟩ <;> rw [hl] at hc
  · refine (Multiset.zero_add objects).symm ▸ ?_
    obtain ⟨-, rfl⟩ | ⟨-, c, text, cursor, -, -, -, rfl⟩ := loadImage_eq_error_cases hl
    · exact h
    · exact { h with sound := h.sound.change hc }
  · obtain ⟨c, text, globals, cursor, current, -, -, -, hm⟩ := loadImage_eq_ok_iff.1 hl
    obtain ⟨rfl, rfl⟩ := Prod.mk.inj hm
    obtain ⟨-, htop, alive⟩ := current_eq_ok_iff.1 current
    obtain rfl : c = shown := by
      have := (currentContext_eq_ok_iff.1 top).2
      rwa [htop] at this
    have nonzero : c ≠ 0 := (h.sound.key_bounds (k := .context) alive).1.ne'
    have absent : s.driver.modules.contains (s.driver.lastHandle + handleStep) = false := by
      by_contra there
      exact h.sound.ne_next (k := .module) (Table.mem_keys_iff.2 (eq_true_of_ne_false there)) rfl
    exact { h with
      sound := h.sound.change hc
      links := by simpa [Object.resource] using h.links
      modules := h.modules.insert h.lt_next absent
        (fun k => by simp [Object.resource, withHandle]) _
      programs := by simpa [Object.resource] using h.programs
      driver_le := h.driver_le.trans hc.lastHandle_le
      owner := fun hm => by
        rcases Multiset.mem_add.1 hm with hm | hm
        · obtain rfl : _ = _ := by simpa using hm
          refine ⟨_, (h.current_eq t).symm.trans current, ?_, Table.get?_insert_self ..⟩
          exact if_neg nonzero
        · obtain ⟨loaded, hb, hm, there⟩ := h.owner hm
          have other := h.sound.ne_next (k := .module) (Table.mem_keys.2 ⟨_, there⟩)
          exact ⟨loaded, hb, hm, (Table.get?_insert_of_ne other _).trans there⟩ }

/-- Nothing new has a null handle. -/
theorem letGo {o : Object} (h : Spared t b ({o} + objects) s) (null : o.isNull = true) :
    Spared t b objects s := by
  cases o with
  | context c =>
    exact { h with
      links := by simpa [Object.resource] using h.links
      modules := by simpa [Object.resource] using h.modules
      programs := by simpa [Object.resource] using h.programs
      owner := fun hm => h.owner (Multiset.mem_add.2 (Or.inr hm)) }
  | link l =>
    have new := h.links.above l.handle (by simp [Object.resource])
    have : l.handle = 0 := by simpa [Object.isNull] using null
    lia
  | module m =>
    have new := h.modules.above m.handle (by simp [Object.resource])
    have : m.handle = 0 := by simpa [Object.isNull] using null
    lia
  | primary c => cases null
  | program q => cases null

/-! ### Programs -/

theorem createProgram (h : Spared t b objects s) (source octets : Bytes) (name : String) :
    Spared t b (made (fun q => .program ⟨q, name⟩)
        (Bench.inProcessNvrtc (.create source octets) s).1.toOption + objects)
      (Bench.inProcessNvrtc (.create source octets) s).2 := by
  have numbered : (Compiler.step (.create source octets) s.compiler).2.Numbered :=
    h.numbered.step _
  simp only [Bench.inProcessNvrtc, Compiler.step, Compiler.create] at numbered ⊢
  split at numbered
  · exact (Multiset.zero_add objects).symm ▸ h
  · have new : b.compiler.lastHandle < s.compiler.lastHandle + 0x10 :=
      Nat.lt_of_le_of_lt h.compiler_le (Nat.lt_add_of_pos_right (by decide))
    have absent : s.compiler.programs.contains (s.compiler.lastHandle + 0x10) = false := by
      by_contra there
      have := h.numbered _ (Table.mem_keys_iff.2 (eq_true_of_ne_false there))
      lia
    exact { h with
      numbered
      links := by simpa [Object.resource] using h.links
      modules := by simpa [Object.resource] using h.modules
      programs := h.programs.insert new absent (fun k => by simp [Object.resource]) _
      compiler_le := new.le
      owner := fun hm => h.owner (by simpa using hm) }

theorem compileProgram {q : Owned.Program} (h : Spared t b ({.program q} + objects) s)
    (options : List Bytes) :
    Spared t b ({.program q} + objects)
      (Bench.inProcessNvrtc (.compile q.handle options) s).2 := by
  have numbered : (Compiler.step (.compile q.handle options) s.compiler).2.Numbered :=
    h.numbered.step _
  have counted : 0 < owned (.program q.handle) ({.program q} + objects) := by
    simp [Object.resource]
  obtain ⟨program, alive⟩ := Table.contains_iff.1 (h.programs.contains counted)
  obtain ⟨program', -, changed, last⟩ := Compiler.compiled_of_get? alive options
  exact { h with
    numbered
    programs := changed ▸ h.programs.update counted program'
    compiler_le := last ▸ h.compiler_le }

theorem destroyProgram {q : Owned.Program} (h : Spared t b ({.program q} + objects) s) :
    Spared t b objects (Bench.inProcessNvrtc (.destroy q.handle) s).2 := by
  have numbered : (Compiler.step (.destroy q.handle) s.compiler).2.Numbered := h.numbered.step _
  have there : s.compiler.programs.contains q.handle = true :=
    h.programs.contains (by simp [Object.resource])
  obtain ⟨program, hq⟩ := Table.contains_iff.1 there
  simp only [Bench.inProcessNvrtc, Compiler.step, Compiler.destroy, hq] at numbered ⊢
  exact { h with
    numbered
    links := by simpa [Object.resource] using h.links
    modules := by simpa [Object.resource] using h.modules
    programs := h.programs.erase fun k => by simp [Object.resource]
    owner := fun hm => h.owner (Multiset.mem_add.2 (Or.inr hm)) }

/-- Each call that compiling and loading makes spares what was there before. -/
theorem accounts (t : ThreadId) (b : Bench ν) (system : System) :
    LoadAccounts (Platform.inProcess system) t (Spared t b) where
  asks hc held := held.asks hc
  beginLink {files _ _} held := held.beginLink files
  addInput {files _ _ _ _ _ _} held := held.addInput files _ _ _
  endLink {files _ _ _} held := held.endLink files
  loadData {files image c objects s s'} held shown := by
    have top : s.driver.currentContext t = .ok c := congrArg Prod.fst shown
    obtain rfl : s = s' := congrArg Prod.snd shown
    exact held.loadData files image top
  letGo null held := held.letGo null
  asksNvrtc hc held := held.asksNvrtc hc
  createProgram held := held.createProgram _ _ _
  compile held := held.compileProgram _
  destroyProgram held := held.destroyProgram

end Spared

/-- **Compiling and loading is all or nothing.** In any state that driver and runtime compiler can come
to, whatever the source, the options, the architecture and the compiler are and whatever the commands do
that are run: contexts, primary contexts, the stacks of all threads, launches, link sessions and programs
are afterwards as they were. So are the modules, except that a success adds the module that it answers
with, owned by the thread's current context. -/
theorem Compile.compileAndLoad_all_or_nothing {ν : Type} (system : System) (t : ThreadId) (source : String)
    (options : List String) (arch : Option String) (compiler : Compile.Compiler)
    (devices : Int) (capability : Int × Int) (es : List Event) (version : Int × Int)
    (architectures : Option (List Int)) (calls : List Nvrtc.Call) (w : World (Bench ν))
    (driver : w.native.driver = (fresh devices capability).run es)
    (nvrtc : w.native.compiler = ({ version, architectures } : InProcess.Compiler).run calls) :
    let answer := Compile.compileAndLoad (Platform.inProcess system) t source options arch compiler w
    let b := w.native
    let b' := answer.2.native
    b'.driver.contexts = b.driver.contexts ∧ b'.driver.primaries = b.driver.primaries ∧
      b'.driver.stackOf = b.driver.stackOf ∧ b'.driver.launches = b.driver.launches ∧
      (∀ l, b'.driver.links.get? l = b.driver.links.get? l) ∧
      (∀ q, b'.compiler.programs.get? q = b.compiler.programs.get? q) ∧
      match answer.1 with
      | .error _ => ∀ m, b'.driver.modules.get? m = b.driver.modules.get? m
      | .ok m => m.handle ∉ b.driver.modules.keys ∧ ∃ loaded,
          b.driver.current t = .ok loaded.context ∧ m.context = some loaded.context ∧
          ∀ m', b'.driver.modules.get? m' =
            if m' = m.handle then some loaded else b.driver.modules.get? m' := by
  intro answer b b'
  have sound : Integrity b.driver := driver ▸ integrity_run devices capability es
  have numbered : b.compiler.Numbered :=
    nvrtc ▸ (Compiler.numbered_fresh version architectures).run calls
  have spared : Spared t b (made .module answer.1.toOption) b' := by
    have traded := (Spared.accounts t b system).compileAndLoad_trades source options arch compiler 0 w
      (by simpa using Spared.refl t sound numbered)
    simpa using traded
  have modules {m : Handle} (hm : owned (.module m) (made .module answer.1.toOption) = 0) :
      b'.driver.modules.get? m = b.driver.modules.get? m :=
    spared.modules.get?_eq (fun _ h => (sound.key_bounds (k := .module) h).2) hm
  refine ⟨spared.contexts, spared.primaries, spared.stackOf, spared.launches,
    fun l => spared.links.get?_eq (fun _ h => (sound.key_bounds (k := .link) h).2) ?_,
    fun q => spared.programs.get?_eq numbered ?_, ?_⟩
  · cases answer.1 <;> simp [Object.resource]
  · cases answer.1 <;> simp [Object.resource]
  · rcases hm : answer.1 with e | m
    · exact fun m => modules (by simp [hm])
    · rw [hm] at spared
      have there : .module m ∈ made Object.module (some m) := by simp
      obtain ⟨loaded, current, owner, found⟩ := spared.owner there
      have new : b.driver.lastHandle < m.handle :=
        spared.modules.above m.handle (by simp [Object.resource])
      refine ⟨fun old => ?_, loaded, current, owner, fun m' => ?_⟩
      · exact absurd (sound.key_bounds (k := .module) old).2 (Nat.not_le.2 new)
      · split
        · rename_i same
          rw [same, found]
        · rename_i other
          exact modules (by simp [hm, Object.resource, Ne.symm other])

/-- A bench on which a link session and a program of others are alive. -/
def Bench.busy : Bench Unit where
  driver := (fresh 1 (7, 0)).run [⟨0, {}, .init 0⟩, ⟨0, {}, .createContext 0 ⟨0⟩⟩,
    ⟨1, {}, .setCurrentContext 0x1100⟩, ⟨1, {}, .createLink⟩]
  compiler := ({ version := (12, 4), architectures := none } : InProcess.Compiler).run
    [.create [] []]
  vendor := ()

/-- A refused source leaves the link session and the program of others alone. -/
theorem Compile.compileAndLoad_all_or_nothing_refused :
    let answer := Compile.compileAndLoad (Platform.inProcess .bare) 0 "#error"
      [] none .nvrtc { native := Bench.busy }
    answer.1.toOption = none ∧ Bench.busy.driver.links.keys = [0x1200] ∧
      Bench.busy.compiler.programs.keys = [0x7010] ∧
      (∀ l, answer.2.native.driver.links.get? l = Bench.busy.driver.links.get? l) ∧
      ∀ q, answer.2.native.compiler.programs.get? q = Bench.busy.compiler.programs.get? q := by
  obtain ⟨-, -, -, -, links, programs, -⟩ := Compile.compileAndLoad_all_or_nothing
    .bare 0 "#error" [] none .nvrtc 1 (7, 0) _ (12, 4) none _
    { native := Bench.busy } rfl rfl
  have refused : (Compile.compileAndLoad (Platform.inProcess .bare) 0 "#error"
    [] none .nvrtc { native := Bench.busy }).1.toOption = none := by decide +kernel
  exact ⟨refused, rfl, rfl, links, programs⟩

end GpuDriver
