import GpuDriver.Proofs.CommandLine.Primary
import GpuDriver.Proofs.Compile.Lifecycle
import GpuDriver.Proofs.Compile.WorkingDirectory

/-!
# Compiling a file

The architecture is chosen, the source is read and compiled, and the code is written. Writing is the last
step that can fail: after a failure the files are what the compiler left (`onFailure_compileSource`), and
after a success the output is the code (`compileSource_eq_ok`).
-/

namespace GpuDriver.CommandLine

open InProcess

variable {ν : Type} {m : Machine ν} {w w' : World (Bench ν)} {ordinal : Int} {source out : Path}
  {codeType : String} {usesNvrtc : Bool} {arch : Option String} {options : List String}

/-- What a source is called when it is compiled. -/
def sourceName (source : Path) : String :=
  ((Path.fileName? source).map Utf8.decodeLossy).getD "kern.cu"

theorem slash_not_mem_sourceName (source : Path) : '/' ∉ (sourceName source).toList := by
  rw [sourceName]
  cases named : Path.fileName? source with
  | none => decide
  | some c =>
    exact fun hm => Path.slash_not_mem_fileName named
      (Utf8.octet_mem_of_mem_decodeLossy (x := '/') (by decide) hm)

/-- The runtime compiler in the process, if it is asked for. -/
def nvrtcIf (ν : Type) (usesNvrtc : Bool) : Option (Nvrtc.Backend (Bench ν)) :=
  if usesNvrtc then some Bench.inProcessNvrtc else none

theorem compileSource_eq (m : Machine ν) (ordinal : Int) (source out : Path) (codeType : String)
    (usesNvrtc : Bool) (arch : Option String) (options : List String) :
    compileSource m true ordinal source out codeType usesNvrtc arch options = (do
      let arch ← chosenArchitecture m true ordinal (nvrtcIf ν usesNvrtc) arch
      let files ← Act.look (·.files)
      let text ← (Act.ofExcept (files.readText source)).mapError .io
      let code ← compileText m (nvrtcIf ν usesNvrtc) codeType text arch (sourceName source) options
      writeFile out code.bytes
      say ("compiled " ++ Path.display source ++ " -> " ++ Path.display out ++ " (sm_" ++ arch ++ ", " ++
        code.kind.name ++ ")")) := by
  cases usesNvrtc <;> rfl

theorem preserves_chosenArchitecture {I : World (Bench ν) → Prop} (hI : World.Outside I)
    (nvrtc : Option (Nvrtc.Backend (Bench ν))) :
    (chosenArchitecture m true ordinal nvrtc arch).Preserves I := by
  cases arch with
  | some arch => exact Act.preserves_pure _
  | none =>
    refine (preserves_openDriver hI m).bind fun driver => ?_
    exact preserves_inPrimary hI ((Compile.preserves_defaultArchitecture hI).mapError _)

/-- The command-line compiler leaves the working directory alone. -/
theorem unwritten_compileText {w₁ : World (Bench ν)} (sound : w.files.Sound)
    (here : w.files.at? w.files.directory = some .directory)
    (new : FileTree.MakesFresh m.makeTemporary) (keeps : KeepsDirectory m.programs w.files.directory)
    (same : w.SameOutside w₁) {text arch : String} :
    FileTree.Unwritten w.environment.temporaryParent w.files
      (compileText m (nvrtcIf ν false) codeType text arch (sourceName source) options w₁).2.files := by
  rw [← same.files] at sound here keeps
  rw [← same.files, ← same.environment]
  cases parsed : Compile.CodeType.parse codeType with
  | error e =>
    have failed : compileText m (nvrtcIf ν false) codeType text arch (sourceName source) options w₁ =
        (.error (.compile e), w₁) :=
      Act.bind_of_error (Act.mapError_of_error (Act.ofExcept_of_error parsed))
    rw [failed]
    exact .refl _ _
  | ok type =>
    have begun : compileText m (nvrtcIf ν false) codeType text arch (sourceName source) options w₁ =
        ((Compile.withNvcc m.inProcess text options arch (sourceName source) type).mapError
          .compile) w₁ :=
      Act.bind_of_ok (Act.mapError_of_ok (Act.ofExcept_of_ok parsed))
    rw [begun, Act.snd_mapError]
    exact Compile.unwritten_withNvcc sound here new keeps (slash_not_mem_sourceName source) ..

/-- After a failure things are outside as they were, or as the compiler left them. -/
theorem onFailure_compileSource {I : World (Bench ν) → Prop} {e : Failure}
    (before : ∀ w₁, w.SameOutside w₁ → I w₁)
    (compiled : ∀ w₁ text arch, w.SameOutside w₁ →
      I (compileText m (nvrtcIf ν usesNvrtc) codeType text arch (sourceName source) options w₁).2)
    (failed : compileSource m true ordinal source out codeType usesNvrtc arch options w = (.error e, w')) :
    I w' := by
  have same := World.outside_sameOutside w
  have steps : (compileSource m true ordinal source out codeType usesNvrtc arch options).OnFailure
      w.SameOutside I := by
    rw [compileSource_eq]
    refine Act.onFailure_bind (preserves_chosenArchitecture same _) before fun arch => ?_
    refine Act.onFailure_bind (Act.preserves_look _) before fun files => ?_
    refine Act.onFailure_bind ((Act.preserves_ofExcept _).mapError _) before fun text => ?_
    refine Act.onFailure_bind (fun w₁ => compiled w₁ text arch) (fun _ hw => hw) fun code => ?_
    exact (Act.onFailure_writeFile.mapError _).bind_ok fun _ _ => ⟨_, _, rfl⟩
  exact steps w (.refl w) e w' failed

/-- After a success the output is the code that the compiler made of the text of the source. -/
theorem compileSource_eq_ok
    (h : compileSource m true ordinal source out codeType usesNvrtc arch options w = (.ok (), w')) :
    ∃ text name code w₁ w₂, w.files.readText source = .ok text ∧ (∀ n ∈ arch, name = n) ∧
      w.SameOutside w₁ ∧
      compileText m (nvrtcIf ν usesNvrtc) codeType text name (sourceName source) options w₁ =
        (.ok code, w₂) ∧
      w₂.files.write out code.bytes = .ok w'.files := by
  rw [compileSource_eq] at h
  obtain ⟨name, w₁, choosing, h₁⟩ := Act.bind_eq_ok_iff.1 h
  have same : w.SameOutside w₁ := by
    have kept : w.SameOutside (chosenArchitecture m true ordinal (nvrtcIf ν usesNvrtc) arch w).2 :=
      preserves_chosenArchitecture (World.outside_sameOutside w) _ w (.refl w)
    rw [choosing] at kept
    exact kept
  have chosen : ∀ n ∈ arch, name = n := by
    rintro n ⟨⟩
    exact (Act.pure_eq_ok_iff.1 choosing).1.symm
  obtain ⟨files, w₂, looking, h₂⟩ := Act.bind_eq_ok_iff.1 h₁
  obtain ⟨rfl, rfl⟩ := Act.look_eq_ok_iff.1 looking
  obtain ⟨text, w₃, reading, h₃⟩ := Act.bind_eq_ok_iff.1 h₂
  obtain ⟨read, rfl⟩ := Act.ofExcept_eq_ok_iff.1 (Act.mapError_eq_ok_iff.1 reading)
  obtain ⟨code, w₄, compiling, h₄⟩ := Act.bind_eq_ok_iff.1 h₃
  obtain ⟨⟨⟩, w₅, writing, saying⟩ := Act.bind_eq_ok_iff.1 h₄
  obtain ⟨files, console, output, written, rfl⟩ := Act.writeFile_eq_ok (Act.mapError_eq_ok_iff.1 writing)
  obtain ⟨-, rfl⟩ := Prod.mk.inj saying
  exact ⟨text, name, code, w₁, w₄, same.files ▸ read, chosen, same, compiling, written⟩

end GpuDriver.CommandLine
