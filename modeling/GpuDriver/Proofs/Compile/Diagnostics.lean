import GpuDriver.Proofs.Compile.Dump
import GpuDriver.Proofs.Compile.Lifecycle
import GpuDriver.Proofs.Source.Flaw

/-!
# Diagnostics

The in-process runtime compiler says of a flaw in which line it is seen. A user looks for that line in the
dump, where the lines are counted in another way. The number is nevertheless that of the line which has
the flaw (`Compile.diagnostics_point_at_dump`).
-/

namespace GpuDriver

open InProcess

/-! ### The failure of a flawed source -/

/-- What the log says of a flaw, behind the number of the line. -/
def Source.Flaw.complaint : Flaw → String
  | directive _ text => "): error: #error directive: " ++ text ++ "\n"
  | unbalanced _ => "): error: expected a \"\x7d\"\n"

/-- The log names the source and the line. -/
theorem Source.Flaw.log_eq (name : String) (flaw : Flaw) : flaw.log name =
    name ++ "(" ++ Text.decimal flaw.line ++ flaw.complaint ++
      "\n1 error detected in the compilation of \"" ++ name ++ "\".\n" := by
  cases flaw with
  | directive number text =>
    have said : (directive number text).complaint =
      "): error: #error directive: " ++ text ++ "\n" := rfl
    rw [said, log, line]
    simp only [String.append_assoc]
  | unbalanced number =>
    have said : (unbalanced number).complaint = "): error: expected a \"\x7d\"\n" := rfl
    rw [said, log, line]

/-- A program with a flaw is refused, and its log is that of the flaw. -/
theorem InProcess.Compiler.compile_of_flaw {c : Compiler} {q : Handle} {program : InProcess.Program}
    {options : List String} {target : Int} {flaw : Source.Flaw}
    (alive : c.programs.get? q = some program)
    (accepted : c.targetArchitecture options = .ok target)
    (flawed : Source.translate program.source target = .error (.flaw flaw)) :
    c.compile q (options.map Utf8.encode) = (.error (.code .compilation), { c with
      lastOptions := options
      programs := c.programs.insert q { program with ptx := none, log := flaw.log program.name } }) := by
  have accepted : ({ c with lastOptions := options } : Compiler).targetArchitecture options =
    .ok target := accepted
  simp only [compile, Utf8.map_decodeLossy_encode, compileWith, alive, accepted, flawed]
  rfl

namespace Compile

variable {ν : Type} {system : System} {w : World (Bench ν)}

/-- A source is given to the in-process runtime compiler to be translated for an architecture: the options
are accepted, and there is no NUL that would keep it from being asked. -/
structure Submitted (w : World (Bench ν)) (source filename : String) (options : List String)
    (arch : String) (target : Int) : Prop where
  /-- The compiler accepts the options. -/
  accepted : w.native.compiler.targetArchitecture (nvrtcOptions w.settings options arch) = .ok target
  /-- The source holds no NUL. -/
  cleanSource : '\x00' ∉ source.toList
  /-- Its name holds no NUL. -/
  cleanFilename : '\x00' ∉ filename.toList
  /-- No option holds a NUL. -/
  clean : ∀ option ∈ options, '\x00' ∉ option.toList

variable (system) in
/-- **A source with a flaw** is a compilation that failed with the log of the flaw. -/
theorem withNvrtc_of_flaw {source filename arch : String} {options : List String} {target : Int}
    {flaw : Source.Flaw} (submitted : Submitted w source filename options arch target)
    (flawed : Source.translate source target = .error (.flaw flaw)) :
    ∃ w', withNvrtc (Platform.inProcess system) source options arch filename w = (.error (.compile {
      compiler := .nvrtc, message := flaw.log filename, source, name := filename
      options := nvrtcOptions w.settings options arch }), w') := by
  let q := w.native.compiler.lastHandle + 0x10
  let program : InProcess.Program := { source, name := filename }
  let c₁ : InProcess.Compiler := { w.native.compiler with
    lastHandle := q
    programs := w.native.compiler.programs.insert q program }
  let c₂ : InProcess.Compiler := { c₁ with
    lastOptions := nvrtcOptions w.settings options arch
    programs := c₁.programs.insert q { program with ptx := none, log := flaw.log filename } }
  have kept : c₂.programs.get? q = some { program with ptx := none, log := flaw.log filename } :=
    Table.get?_insert_self ..
  have created : Owned.Program.create (Platform.inProcess system) source filename w =
      (.ok ⟨q, filename⟩, w.withCompiler c₁) :=
    create_of_not_mem submitted.cleanSource submitted.cleanFilename
  have refused : Owned.Program.compile (Platform.inProcess system) ⟨q, filename⟩
      (nvrtcOptions w.settings options arch) (w.withCompiler c₁) =
        (.error (.ofCode .compilation), w.withCompiler c₂) := by
    have given := mapM_octets (nvrtcOptions_clean submitted.accepted submitted.clean)
    refine (Act.bind_of_ok (Act.ofExcept_of_ok given)).trans ?_
    have answered : c₁.compile q _ = (.error (.code .compilation), c₂) :=
      InProcess.Compiler.compile_of_flaw (Table.get?_insert_self ..) submitted.accepted flawed
    exact Platform.callNvrtc_eq_error_iff.2 ⟨_, congrArg Prod.fst answered, rfl,
      congrArg w.withCompiler (congrArg Prod.snd answered)⟩
  have logged : Owned.Program.log (Platform.inProcess system) ⟨q, filename⟩ (w.withCompiler c₂) =
      (.ok (flaw.log filename), w.withCompiler c₂) :=
    Platform.callNvrtc_of_step (w := w.withCompiler c₂) 
      (congrArg (·, c₂) (InProcess.Compiler.log_of_get? kept))
  obtain ⟨w', failed⟩ := withNvrtc_of_log created refused logged (by decide)
  rw [refusalMessage_of_ok (Source.Flaw.isBlankText_log ..)] at failed
  exact ⟨w', failed⟩

/-- The dump shows the line that has the flaw behind the number of the flaw. -/
theorem hasLine_dump_flaw {f : Failure} {flaw : Source.Flaw} {line shown : List Char}
    (flawed : Source.HasFlaw f.source.toList flaw line) :
    HasLine f.dump.toList flaw.line shown ↔ shown = Text.trimEnd line := by
  obtain ⟨i, number, there⟩ := flawed.getElem?_splitOn
  rw [f.hasLine_dump_iff, f.sourceLines_eq, number]
  constructor
  · rintro ⟨j, same, there'⟩
    obtain rfl := Nat.succ.inj same
    exact Option.some.inj (there'.symm.trans there)
  · rintro rfl
    exact ⟨i, rfl, there⟩

/-- **Diagnostics point at the right line of the dump.** The translation of a source fails with a flaw
exactly if one of its lines is an `#error` directive or its braces are not balanced. The flaw that is found
is the first directive, with the text behind it, or else that of the braces, with the number of the last
line. When the library has the in-process runtime compiler translate a source that has a flaw, the
compilation fails with a message that says so and names a line. This is the number that the dump of the
failure shows in front of the line with the flaw, and in front of no other. -/
theorem diagnostics_point_at_dump (source : String) (target : Int) :
    let fails (flaw : Source.Flaw) : Prop := Source.translate source target = .error (.flaw flaw)
    let cs := source.toList
    ((∃ flaw, fails flaw) ↔
      (∃ line ∈ cs.splitOn '\n', Source.IsDirective line) ∨ Source.Unbalanced cs) ∧
    (∀ flaw, fails flaw ↔ ∃ line, Source.HasFlaw cs flaw line) ∧
    ∀ {ν : Type} (system : System) (w : World (Bench ν)) (filename arch : String)
      (options : List String),
      Submitted w source filename options arch target → ∀ flaw, fails flaw →
      ∃ failure w' line,
        withNvrtc (Platform.inProcess system) source options arch filename w =
          (.error (.compile failure), w') ∧
        failure.source = source ∧ failure.name = filename ∧
        failure.message = filename ++ "(" ++ Text.decimal flaw.line ++ flaw.complaint ++
          "\n1 error detected in the compilation of \"" ++ filename ++ "\".\n" ∧
        Source.HasFlaw cs flaw line ∧ 1 ≤ flaw.line ∧
        ∀ shown, HasLine failure.dump.toList flaw.line shown ↔ shown = Text.trimEnd line := by
  intro fails cs
  have found (flaw : Source.Flaw) : fails flaw ↔ ∃ line, Source.HasFlaw cs flaw line :=
    Source.translate_eq_flaw_iff.trans Source.flaw?_eq_some_iff
  refine ⟨?_, found, fun system w filename arch options submitted flaw failed => ?_⟩
  · calc (∃ flaw, fails flaw)
      _ ↔ ∃ flaw, Source.flaw? source = some flaw :=
        exists_congr fun _ => Source.translate_eq_flaw_iff
      _ ↔ ¬ Source.flaw? source = none := Option.ne_none_iff_exists'.symm
      _ ↔ (∃ line ∈ cs.splitOn '\n', Source.IsDirective line) ∨ Source.Unbalanced cs := by
        rw [Source.flaw?_eq_none_iff, Classical.not_and_iff_not_or_not, not_not]
        simp only [not_forall, not_not, exists_prop]
        rfl
  · obtain ⟨line, flawed⟩ := (found flaw).1 failed
    obtain ⟨w', reported⟩ := withNvrtc_of_flaw system submitted failed
    obtain ⟨i, number, -⟩ := flawed.getElem?_splitOn
    exact ⟨_, w', line, reported, rfl, rfl, flaw.log_eq filename, flawed,
      number ▸ Nat.succ_le_succ (Nat.zero_le i), fun _ => hasLine_dump_flaw flawed⟩

/-- A directive goes before a brace that is left open, and a brace that is closed too early is not made
up for; the lines end with returns. -/
theorem diagnostics_point_at_dump_returns :
    let w : World (Bench Unit) := { native := Bench.current }
    let p : Platform (Bench Unit) := Platform.inProcess .bare
    let points (source message : String) (line : Nat) (shown : String) : Prop := ∃ failure w',
      withNvrtc p source [] "70" "a.cu" w = (.error (.compile failure), w') ∧
        failure.message = message ∧ HasLine failure.dump.toList line shown.toList
    points "int x;\r\n\t#error  no kernels \r\nvoid f() \x7b"
      "a.cu(2): error: #error directive: no kernels\n\n1 error detected in the compilation of \"a.cu\".\n"
      2 "\t#error  no kernels" ∧
    points "\x7d\r\n \x7b \r\n"
      "a.cu(2): error: expected a \"\x7d\"\n\n1 error detected in the compilation of \"a.cu\".\n"
      2 " \x7b" := by
  intro w p points
  have point {source message shown : String} {flaw : Source.Flaw} (clean : '\x00' ∉ source.toList)
      (failed : Source.translate source 70 = .error (.flaw flaw))
      (said : "a.cu" ++ "(" ++ Text.decimal flaw.line ++ flaw.complaint ++
        "\n1 error detected in the compilation of \"" ++ "a.cu" ++ "\".\n" = message)
      (there : (source.toList.splitOn '\n')[flaw.line - 1]?.map Text.trimEnd = some shown.toList) :
      points source message flaw.line shown := by
    obtain ⟨-, -, reports⟩ := diagnostics_point_at_dump source 70
    obtain ⟨failure, w', line, reported, -, -, message', flawed, -, numbered⟩ :=
      reports _ w "a.cu" "70" [] ⟨by decide +kernel, clean, by decide, by simp⟩ flaw failed
    obtain ⟨i, number, seen⟩ := flawed.getElem?_splitOn
    rw [number, Nat.add_sub_cancel, seen] at there
    exact ⟨failure, w', reported, message'.trans said, (numbered _).2 (Option.some.inj there).symm⟩
  have directive : Source.translate "int x;\r\n\t#error  no kernels \r\nvoid f() \x7b" 70 =
      .error (.flaw (.directive 2 "no kernels")) := by decide +kernel
  have braces : Source.translate "\x7d\r\n \x7b \r\n" 70 = .error (.flaw (.unbalanced 2)) := by
    decide +kernel
  exact ⟨point (by decide) directive (by decide +kernel) (by decide +kernel),
    point (by decide) braces (by decide +kernel) (by decide +kernel)⟩

end Compile

end GpuDriver
