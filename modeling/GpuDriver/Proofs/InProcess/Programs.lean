import Mathlib.Data.List.Induction
import GpuDriver.InProcess.Compiler
import GpuDriver.Proofs.Table

/-!
# Programs of the in-process runtime compiler

A program lives under a handle of its own from its creation to its destruction, and keeps its source and
its name (`mem_run_iff`, `kept_run`). What it shows is what its last compilation left: the translation and
an empty log, or no translation and a log that says something (`Compiled`). Every call changes the
programs in one of a few ways, from which the rest follows (`Revision`).
-/

namespace GpuDriver

/-- The program that a call is about. -/
def Nvrtc.Call.program? : Nvrtc.Call → Option Handle
  | .destroy p | .compile p _ | .ptx p | .log p => some p
  | .version | .architectures | .create .. | .errorText _ => none

/-! ### Texts that say something -/

theorem Text.isBlankText_append (s t : String) :
    isBlankText (s ++ t) = (isBlankText s && isBlankText t) := by
  simp [isBlankText, String.toList_append]

/-- The log of a flaw says something. -/
theorem Source.Flaw.isBlankText_log (name : String) (flaw : Source.Flaw) :
    Text.isBlankText (flaw.log name) = false := by
  have last : Text.isBlankText "\".\n" = false := by decide
  unfold log
  rw [Text.isBlankText_append, last, Bool.and_false]

namespace InProcess.Compiler

variable {c : Compiler} {p q : Handle} {call : Nvrtc.Call} {program program' : InProcess.Program}
  {programs : Table Handle InProcess.Program} {last : Handle}

/-! ### Options -/

/-- The number of the architecture that a value names. -/
def architecture? (value : List Char) : Option Int :=
  (Text.after? "compute_".toList value).bind Text.int32?

/-- The architecture that the last option for it names; the default one if there is no such option. -/
def lastArchitecture? (options : List String) : Option Int :=
  (options.filterMap architectureValue?).getLast?.elim (some defaultArchitecture) architecture?

/-- The options are read from left to right, so that the last one counts. -/
theorem elim_getLast?_of_namedArchitecture {arch target : Int} {options : List String}
    (h : namedArchitecture arch options = .ok target) :
    (options.filterMap architectureValue?).getLast?.elim (some arch) architecture? = some target := by
  induction options generalizing arch with
  | nil => exact congrArg some (Except.ok.inj h)
  | cons option rest ih =>
    rw [namedArchitecture] at h
    split at h
    · rename_i other
      split at h
      · rw [List.filterMap_cons_none other]
        exact ih h
      · cases h
    · rename_i value given
      split at h
      · rename_i named read
        have read : architecture? value = some named := read
        have later := ih h
        rw [List.filterMap_cons_some given, List.getLast?_cons]
        cases hlast : (rest.filterMap architectureValue?).getLast? with
        | none =>
          rw [hlast] at later
          exact read.trans later
        | some value' =>
          rw [hlast] at later
          exact later
      · cases h

theorem isBlankText_badArchitecture (value : String) :
    Text.isBlankText (badArchitecture value) = false := by
  have first : Text.isBlankText "nvrtc: error: invalid value for -arch: " = false :=
    by decide +kernel
  unfold badArchitecture
  rw [Text.isBlankText_append, first, Bool.false_and]

/-- The log of options that cannot be read says something. -/
theorem isBlankText_of_namedArchitecture {arch : Int} {options : List String} {log : String}
    (h : namedArchitecture arch options = .error log) : Text.isBlankText log = false := by
  induction options generalizing arch with
  | nil => cases h
  | cons option rest ih =>
    rw [namedArchitecture] at h
    rcases given : architectureValue? option with _ | value <;> simp only [given] at h
    · split at h
      · exact ih h
      · have first : Text.isBlankText "nvrtc: error: unrecognized option " = false := by
          decide +kernel
        rw [← Except.error.inj h, Text.isBlankText_append, first, Bool.false_and]
    · rcases read : (Text.after? "compute_".toList value).bind Text.int32? with _ | named <;>
        simp only [read] at h
      · exact Except.error.inj h ▸ isBlankText_badArchitecture _
      · exact ih h

theorem namedArchitecture_of_target {c : Compiler} {options : List String} {target : Int}
    (h : c.targetArchitecture options = .ok target) :
    namedArchitecture defaultArchitecture options = .ok target := by
  unfold targetArchitecture at h
  split at h
  · cases h
  rename_i arch named
  split at h
  · rw [named, h]
  · split at h
    · rw [named, h]
    · cases h

/-- The log of a compiler that is asked for an architecture in vain says something. -/
theorem isBlankText_of_targetArchitecture {options : List String} {log : String}
    (h : c.targetArchitecture options = .error log) : Text.isBlankText log = false := by
  unfold targetArchitecture at h
  rcases named : namedArchitecture defaultArchitecture options with log' | arch <;>
    simp only [named] at h
  · exact Except.error.inj h ▸ isBlankText_of_namedArchitecture named
  · rcases told : c.architectures with _ | known <;> simp only [told] at h
    · cases h
    · split at h
      · cases h
      · exact Except.error.inj h ▸ isBlankText_badArchitecture _

/-! ### One compilation -/

/-- What a compilation with options makes of a program, by how it is answered. -/
inductive Compiled (program : InProcess.Program) (options : List String) :
    Except Nvrtc.Fault Unit → InProcess.Program → Prop
  /-- It is translated for the architecture that the options name last. -/
  | done {arch : Int} {text : String} (named : lastArchitecture? options = some arch)
      (translated : Source.translate program.source arch = .ok text) :
      Compiled program options (.ok ()) { program with ptx := some text, log := "" }
  /-- It is refused, for the reason in the log. -/
  | refused {code : Nvrtc.Code} {log : String} (reason : Text.isBlankText log = false) :
      Compiled program options (.error (.code code)) { program with ptx := none, log }
  /-- The compiler breaks off. -/
  | crashed : Compiled program options (.error .crash) { program with ptx := none }

namespace Compiled

variable {options : List String} {answer : Except Nvrtc.Fault Unit}

theorem source_eq (h : Compiled program options answer program') :
    program'.source = program.source := by
  cases h <;> rfl

theorem name_eq (h : Compiled program options answer program') : program'.name = program.name := by
  cases h <;> rfl

/-- There is a result exactly if the compilation succeeded. -/
theorem ptx_eq_none_iff (h : Compiled program options answer program') :
    program'.ptx = none ↔ answer ≠ .ok () := by
  cases h <;> simp

/-- Unless the compiler broke off, the log is empty exactly if the compilation succeeded. -/
theorem log_eq_empty_iff (h : Compiled program options answer program')
    (whole : answer ≠ .error .crash) : program'.log = "" ↔ answer = .ok () := by
  cases h with
  | done => simp
  | @refused code log reason =>
    have : log ≠ "" := by
      rintro rfl
      cases reason
    simp [this]
  | crashed => exact absurd rfl whole

end Compiled

/-- Compiling a program that is alive. -/
theorem compiled_of_get? (alive : c.programs.get? p = some program) (options : List Bytes) :
    ∃ program', Compiled program (options.map Utf8.decodeLossy) (c.compile p options).1 program' ∧
      (c.compile p options).2.programs = c.programs.insert p program' ∧
      (c.compile p options).2.lastHandle = c.lastHandle := by
  simp only [compile, compileWith, alive]
  rcases wanted : ({ c with lastOptions := options.map Utf8.decodeLossy } : Compiler).targetArchitecture
    (options.map Utf8.decodeLossy) with log | arch
  · exact ⟨_, .refused (isBlankText_of_targetArchitecture wanted), rfl, rfl⟩
  · have named : lastArchitecture? (options.map Utf8.decodeLossy) = some arch :=
      elim_getLast?_of_namedArchitecture (namedArchitecture_of_target wanted)
    rcases translated : Source.translate program.source arch with (flaw | _) | text <;>
      simp only [translated]
    · exact ⟨_, .refused (flaw.isBlankText_log program.name), rfl, rfl⟩
    · exact ⟨_, .crashed, rfl, rfl⟩
    · exact ⟨_, .done named translated, rfl, rfl⟩

/-! ### One call -/

/-- The handles of programs have been given out. -/
def Numbered (c : Compiler) : Prop := ∀ q ∈ c.programs.keys, q ≤ c.lastHandle

/-- What a call makes of the programs and of the handle that was given out last. -/
inductive Revision (c : Compiler) :
    Nvrtc.Call → Table Handle InProcess.Program → Handle → Prop
  /-- A program is created, under a new handle. -/
  | create {source name : Bytes} {text : String} (read : Utf8.decode? source = some text) :
      Revision c (.create source name)
        (c.programs.insert (c.lastHandle + 0x10) { source := text, name := Utf8.decodeLossy name })
        (c.lastHandle + 0x10)
  /-- A program is destroyed. -/
  | destroy {q : Handle} : Revision c (.destroy q) (c.programs.erase q) c.lastHandle
  /-- A program is compiled. -/
  | compile {q : Handle} {options : List Bytes} {program program' : InProcess.Program}
      {answer : Except Nvrtc.Fault Unit} (alive : c.programs.get? q = some program)
      (compiled : Compiled program (options.map Utf8.decodeLossy) answer program') :
      Revision c (.compile q options) (c.programs.insert q program') c.lastHandle
  /-- Nothing is done; the call neither destroys nor compiles a program that is alive. -/
  | idle {call : Nvrtc.Call} (spared : ∀ q ∈ c.programs.keys, call ≠ .destroy q)
      (uncompiled : ∀ q ∈ c.programs.keys, ∀ options, call ≠ .compile q options) :
      Revision c call c.programs c.lastHandle

theorem revision_step (c : Compiler) (call : Nvrtc.Call) :
    Revision c call (step call c).2.programs (step call c).2.lastHandle := by
  cases call with
  | create source name =>
    simp only [step, Compiler.create]
    split
    · exact .idle (by simp) (by simp)
    · rename_i text read
      exact .create read
  | destroy q =>
    simp only [step, Compiler.destroy]
    split
    · rename_i absent
      refine .idle (fun q' alive same => ?_) (by simp)
      obtain ⟨program, alive⟩ := Table.mem_keys.1 alive
      cases same
      cases absent.symm.trans alive
    · exact .destroy
  | compile q options =>
    rcases found : c.programs.get? q with _ | program
    · simp only [step, Compiler.compile, compileWith, found]
      refine .idle (by simp) fun q' alive options' same => ?_
      obtain ⟨program, alive⟩ := Table.mem_keys.1 alive
      cases same
      cases found.symm.trans alive
    · obtain ⟨program', compiled, programs, last⟩ := compiled_of_get? found options
      rw [step, programs, last]
      exact .compile found compiled
  | _ => exact .idle (by simp) (by simp)

namespace Revision

theorem le_last (h : Revision c call programs last) : c.lastHandle ≤ last := by
  cases h with
  | create => exact Nat.le_add_right _ _
  | _ => exact Nat.le_refl _

/-- A program that is there afterwards was there before or has just been created. -/
theorem mem (h : Revision c call programs last) (there : p ∈ programs.keys) :
    p ∈ c.programs.keys ∨
      ∃ source name, call = .create source name ∧ (c.create source name).1 = .ok p := by
  cases h with
  | @create source name text read =>
    rcases Table.mem_keys_insert.1 there with rfl | old
    · exact Or.inr ⟨source, name, rfl, by simp only [Compiler.create, read]⟩
    · exact Or.inl old
  | destroy => exact Or.inl (Table.mem_keys_erase.1 there).2
  | compile alive =>
    rcases Table.mem_keys_insert.1 there with rfl | old
    · exact Or.inl (Table.mem_keys.2 ⟨_, alive⟩)
    · exact Or.inl old
  | idle => exact Or.inl there

/-- A call that neither destroys nor compiles a program leaves it as it is. -/
theorem get?_eq (h : Revision c call programs last) (numbered : c.Numbered)
    (alive : p ∈ c.programs.keys) (spared : call ≠ .destroy p)
    (uncompiled : ∀ options, call ≠ .compile p options) :
    programs.get? p = c.programs.get? p := by
  cases h with
  | create =>
    have old : p ≤ c.lastHandle := numbered p alive
    exact Table.get?_insert_of_ne (by lia) _
  | @destroy q =>
    have other : p ≠ q := fun same => spared (same ▸ rfl)
    rw [Table.get?_erase, if_neg other]
  | @compile q options =>
    have other : p ≠ q := fun same => uncompiled options (same ▸ rfl)
    exact Table.get?_insert_of_ne other _
  | idle => rfl

/-- A program that is not destroyed keeps its source and its name. -/
theorem kept (h : Revision c call programs last) (numbered : c.Numbered)
    (alive : c.programs.get? p = some program) (spared : call ≠ .destroy p) :
    ∃ program', programs.get? p = some program' ∧ program'.source = program.source ∧
      program'.name = program.name := by
  have there : p ∈ c.programs.keys := Table.mem_keys.2 ⟨_, alive⟩
  by_cases compiles : ∃ options, call = .compile p options
  · obtain ⟨options, rfl⟩ := compiles
    cases h with
    | compile found compiled =>
      cases alive.symm.trans found
      exact ⟨_, Table.get?_insert_self .., compiled.source_eq, compiled.name_eq⟩
    | idle _ uncompiled => exact absurd rfl (uncompiled p there options)
  · rw [h.get?_eq numbered there spared (not_exists.1 compiles)]
    exact ⟨program, alive, rfl, rfl⟩

end Revision

/-- Whatever is asked of a program that is not alive, the compiler knows no such program. -/
theorem step_of_not_mem (dead : p ∉ c.programs.keys) (about : call.program? = some p) :
    (step call c).1 = .error (.code .invalidProgram) := by
  have absent : c.programs.get? p = none := by simpa [Table.mem_keys_iff] using dead
  cases call with
  | destroy q =>
    obtain rfl : q = p := Option.some.inj about
    simp only [step, destroy, absent]
  | compile q options =>
    obtain rfl : q = p := Option.some.inj about
    simp only [step, compile, compileWith, absent]
  | ptx q =>
    obtain rfl : q = p := Option.some.inj about
    simp only [step, ptx, absent, Option.bind_none]
  | log q =>
    obtain rfl : q = p := Option.some.inj about
    simp only [step, log, absent]
  | _ => cases about

theorem ptx_of_none (alive : c.programs.get? p = some program) (undone : program.ptx = none) :
    c.ptx p = .error (.code .invalidProgram) := by
  simp only [ptx, alive, Option.bind_some, undone]

theorem log_of_get? (alive : c.programs.get? p = some program) : c.log p = .ok program.log := by
  simp only [log, alive]

/-- A program gets the next handle. -/
theorem create_eq_ok {source name : Bytes} (h : (c.create source name).1 = .ok p) :
    p = c.lastHandle + 0x10 ∧ (c.create source name).2.lastHandle = p ∧
      ∃ text, Utf8.decode? source = some text ∧ (c.create source name).2.programs.get? p =
        some { source := text, name := Utf8.decodeLossy name } := by
  unfold create at h ⊢
  split at h
  · cases h
  · rename_i text read
    obtain rfl := Except.ok.inj h
    exact ⟨rfl, rfl, text, read, Table.get?_insert_self ..⟩

/-- What is destroyed is gone. -/
theorem not_mem_destroy (c : Compiler) (p : Handle) : p ∉ (c.destroy p).2.programs.keys := by
  intro there
  unfold destroy at there
  split at there
  · rename_i absent
    obtain ⟨program, alive⟩ := Table.mem_keys.1 there
    cases absent.symm.trans alive
  · exact (Table.mem_keys_erase.1 there).1 rfl

theorem Numbered.step (h : Numbered c) (call : Nvrtc.Call) : Numbered (step call c).2 := by
  intro q there
  obtain old | ⟨source, name, rfl, made⟩ := (revision_step c call).mem there
  · exact Nat.le_trans (h q old) (revision_step c call).le_last
  · exact Nat.le_of_eq (create_eq_ok made).2.1.symm

theorem numbered_fresh (version : Int × Int) (architectures : Option (List Int)) :
    Numbered { version, architectures } := by
  intro q hq
  simp at hq

/-! ### Many calls -/

/-- The runtime compiler after some calls. -/
def run (c : Compiler) (calls : List Nvrtc.Call) : Compiler :=
  calls.foldl (fun c call => (step call c).2) c

theorem run_append (c : Compiler) (calls calls' : List Nvrtc.Call) :
    c.run (calls ++ calls') = (c.run calls).run calls' := List.foldl_append

theorem run_cons (c : Compiler) (call : Nvrtc.Call) (calls : List Nvrtc.Call) :
    c.run (call :: calls) = (step call c).2.run calls := rfl

theorem Numbered.run (h : Numbered c) (calls : List Nvrtc.Call) : Numbered (c.run calls) := by
  induction calls generalizing c with
  | nil => exact h
  | cons call calls ih => exact ih (h.step call)

theorem lastHandle_le_run (c : Compiler) (calls : List Nvrtc.Call) :
    c.lastHandle ≤ (c.run calls).lastHandle := by
  induction calls generalizing c with
  | nil => exact Nat.le_refl _
  | cons call calls ih => exact Nat.le_trans (revision_step c call).le_last (ih _)

/-- A handle that was given out is not given out again. -/
theorem not_mem_run (dead : p ∉ c.programs.keys) (old : p ≤ c.lastHandle)
    (calls : List Nvrtc.Call) : p ∉ (c.run calls).programs.keys := by
  induction calls generalizing c with
  | nil => exact dead
  | cons call calls ih =>
    refine ih (fun there => ?_) (Nat.le_trans old (revision_step c call).le_last)
    obtain alive | ⟨source, name, rfl, made⟩ := (revision_step c call).mem there
    · exact dead alive
    · have new := (create_eq_ok made).1
      lia

/-- A program that is not destroyed keeps its source and its name through any calls. -/
theorem kept_run (numbered : c.Numbered) (alive : c.programs.get? p = some program)
    {calls : List Nvrtc.Call} (spared : .destroy p ∉ calls) :
    ∃ program', (c.run calls).programs.get? p = some program' ∧
      program'.source = program.source ∧ program'.name = program.name := by
  induction calls generalizing c program with
  | nil => exact ⟨program, alive, rfl, rfl⟩
  | cons call calls ih =>
    obtain ⟨now, later⟩ := not_or.1 (mt List.mem_cons.2 spared)
    obtain ⟨program₁, alive₁, source₁, name₁⟩ :=
      (revision_step c call).kept numbered alive (Ne.symm now)
    obtain ⟨program₂, alive₂, source₂, name₂⟩ := ih (numbered.step call) alive₁ later
    exact ⟨program₂, alive₂, source₂.trans source₁, name₂.trans name₁⟩

/-- A program that is neither destroyed nor compiled stays as it is. -/
theorem get?_run (numbered : c.Numbered) (alive : c.programs.get? p = some program)
    {calls : List Nvrtc.Call} (spared : .destroy p ∉ calls)
    (uncompiled : ∀ options, .compile p options ∉ calls) :
    (c.run calls).programs.get? p = some program := by
  induction calls generalizing c with
  | nil => exact alive
  | cons call calls ih =>
    obtain ⟨now, later⟩ := not_or.1 (mt List.mem_cons.2 spared)
    refine ih (numbered.step call) (Eq.trans ?_ alive) later
      fun options h => uncompiled options (List.mem_cons_of_mem _ h)
    exact (revision_step c call).get?_eq numbered (Table.mem_keys.2 ⟨_, alive⟩) (Ne.symm now)
      fun options same => uncompiled options (same ▸ List.mem_cons_self)

/-- What the last compilation left is there until the program is destroyed. -/
theorem compiled_run (numbered : c.Numbered) (alive : c.programs.get? p = some program)
    (options : List Bytes) {rest : List Nvrtc.Call} (spared : .destroy p ∉ rest)
    (uncompiled : ∀ options, .compile p options ∉ rest) :
    ∃ program', Compiled program (options.map Utf8.decodeLossy) (c.compile p options).1 program' ∧
      (c.run (.compile p options :: rest)).programs.get? p = some program' := by
  obtain ⟨program', compiled, programs, -⟩ := compiled_of_get? alive options
  have there : (step (.compile p options) c).2.programs.get? p = some program' := by
    rw [step, programs, Table.get?_insert_self]
  exact ⟨program', compiled, get?_run (numbered.step _) there spared uncompiled⟩

/-- A program lives until it is destroyed. -/
theorem mem_run_iff (numbered : c.Numbered) (alive : p ∈ c.programs.keys)
    (calls : List Nvrtc.Call) : p ∈ (c.run calls).programs.keys ↔ .destroy p ∉ calls := by
  constructor
  · intro there destroyed
    obtain ⟨front, back, rfl⟩ := List.append_of_mem destroyed
    have old : p ≤ (c.run front).lastHandle :=
      Nat.le_trans (numbered p alive) (lastHandle_le_run c front)
    have still := (revision_step (c.run front) (.destroy p)).le_last
    rw [run_append, run_cons] at there
    exact not_mem_run (not_mem_destroy _ p) (Nat.le_trans old still) back there
  · intro spared
    obtain ⟨program, alive⟩ := Table.mem_keys.1 alive
    obtain ⟨program', alive', -⟩ := kept_run numbered alive spared
    exact Table.mem_keys.2 ⟨program', alive'⟩

/-- A program that is alive has been created. -/
theorem exists_create_of_mem_run (blank : c.programs = .empty) {calls : List Nvrtc.Call}
    (alive : p ∈ (c.run calls).programs.keys) :
    ∃ front source name back, calls = front ++ .create source name :: back ∧
      ((c.run front).create source name).1 = .ok p := by
  induction calls using List.reverseRecOn with
  | nil =>
    have alive : p ∈ c.programs.keys := alive
    simp [blank] at alive
  | append_singleton calls call ih =>
    rw [run_append] at alive
    obtain old | ⟨source, name, rfl, made⟩ := (revision_step (c.run calls) call).mem alive
    · obtain ⟨front, source, name, back, rfl, made⟩ := ih old
      exact ⟨front, source, name, back ++ [call], by simp, made⟩
    · exact ⟨calls, source, name, [], rfl, made⟩

end InProcess.Compiler

end GpuDriver
