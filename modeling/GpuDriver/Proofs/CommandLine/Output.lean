import GpuDriver.CommandLine.Words
import GpuDriver.Proofs.CommandLine.Compile
import GpuDriver.Proofs.CommandLine.Link

/-!
# When the command line writes

Linking and compiling write their output last. So the files in the working directory are as they were if
the program ends with an error, and otherwise the output is what was linked or compiled
(`output_only_on_success`).
-/

namespace GpuDriver.CommandLine

open InProcess Compile

variable {ν : Type}

/-- The contents were written at the path; they are read there, unless it is that of a sink. -/
structure Written (before after : FileTree) (out : Path) (contents : Bytes) : Prop where
  written : before.write out contents = .ok after
  read (keeps : before.sink? out = none) : after.read out = .ok contents

theorem written_of_write {before after : FileTree} {out : Path} {contents : Bytes}
    (h : before.write out contents = .ok after) : Written before after out contents :=
  ⟨h, FileTree.read_write h⟩

/-- How linking ends, with its exit code and the world after it. After a failure the files are as they
were. It succeeds exactly if the device is there, the inputs can be linked and the output can be written;
then the output is what the inputs are joined to. -/
structure LinkOutcome (w : World (Bench ν)) (device : Int) (inputs : List Path) (out : Path)
    (fallback : Option ImageKind) (ended : Nat × World (Bench ν)) : Prop where
  kept (failed : ended.1 ≠ 0) : ended.2.files = w.files
  succeeds : ended.1 = 0 ↔ State.fresh.HasDevice ⟨device⟩ ∧ ∃ texts files,
    Linkable w.files fallback inputs texts ∧
      w.files.write out (Utf8.encode (joinedText texts)) = .ok files
  written (succeeded : ended.1 = 0) (texts : List String)
    (linkable : Linkable w.files fallback inputs texts) :
    Written w.files ended.2.files out (Utf8.encode (joinedText texts))

/-- How compiling with the runtime compiler ends. After a failure the files are as they were; after a
success the output is the translation of the source for the architecture that the options name last. -/
structure NvrtcOutcome (w : World (Bench ν)) (source out : Path) (arch : Option String)
    (options : List String) (ended : Nat × World (Bench ν)) : Prop where
  kept (failed : ended.1 ≠ 0) : ended.2.files = w.files
  written (succeeded : ended.1 = 0) : ∃ text name target ptx, w.files.readText source = .ok text ∧
    (∀ n ∈ arch, name = n) ∧
    Compiler.lastArchitecture? (nvrtcOptions w.settings options name) = some target ∧
    Source.translate text target = .ok ptx ∧ Written w.files ended.2.files out (Utf8.encode ptx)

/-- How compiling with the command-line compiler ends. After a failure the working directory is unwritten,
if directories made for a time are new and the programs that can be run leave it alone; after a success the
output is what the compiler left. -/
structure NvccOutcome (m : Machine ν) (w : World (Bench ν)) (source out : Path) (type : String)
    (arch : Option String) (options : List String) (ended : Nat × World (Bench ν)) : Prop where
  unwritten (sound : w.files.Sound) (here : w.files.at? w.files.directory = some .directory)
    (new : FileTree.MakesFresh m.makeTemporary)
    (keeps : KeepsDirectory m.programs w.files.directory) (failed : ended.1 ≠ 0) :
    FileTree.Unwritten w.environment.temporaryParent w.files ended.2.files
  written (succeeded : ended.1 = 0) : ∃ text name kind bytes left,
    w.files.readText source = .ok text ∧ (∀ n ∈ arch, name = n) ∧ CodeType.parse type = .ok kind ∧
    NvccLeaves m.inProcess w text options name (sourceName source) kind bytes left ∧
    Written left ended.2.files out bytes

section Run

variable {m : Machine ν} {read : Reader} {words : List Bytes} {w : World (Bench ν)} {i : Invocation}
  (parsed : read words = .ok i)

include parsed

theorem run_of_ok {w' : World (Bench ν)} (h : perform m i w = (.ok (), w')) :
    run m read words w = (0, w') := by
  rw [run, parsed]
  simp only [h]

/-- A task that fails ends the program with an error, and only says so. -/
theorem run_of_error {w' : World (Bench ν)} {e : Failure} (h : perform m i w = (.error e, w')) :
    (run m read words w).1 ≠ 0 ∧ (run m read words w).2.files = w'.files := by
  rw [run, parsed]
  simp only [h]
  split
  · rename_i ended
    cases ended
  · rename_i ended
    cases ended
    exact ⟨(by decide : 101 ≠ 0), rfl⟩
  · rename_i ended
    obtain ⟨-, rfl⟩ := Prod.mk.inj ended
    exact ⟨Nat.one_ne_zero, rfl⟩

end Run

section Tasks

variable {m : Machine ν} {read : Reader} {words : List Bytes} {w : World (Bench ν)} {device : Int}

theorem run_link {fallback : Option ImageKind} {inputs : List Path} {out : Path}
    (parsed : read words = .ok ⟨true, device, .link inputs out fallback⟩)
    (unused : w.native.driver = .fresh) :
    LinkOutcome w device inputs out fallback (run m read words w) := by
  obtain ⟨texts, w', known, linkable, written, done⟩ | ⟨never, e, w', failed, kept⟩ :=
    perform_link_cases m unused device fallback inputs out
  · rw [run_of_ok parsed done]
    refine ⟨fun failed => absurd rfl failed, ?_, fun _ texts' linkable' => ?_⟩
    · exact ⟨fun _ => ⟨known, texts, _, linkable, written⟩, fun _ => rfl⟩
    · obtain rfl := List.right_unique_forall₂' (rightUnique_holdsModule _) linkable.hold linkable'.hold
      exact written_of_write written
  · obtain ⟨nonzero, files⟩ := run_of_error parsed failed
    refine ⟨fun _ => files.trans kept, ⟨fun succeeded => absurd succeeded nonzero, ?_⟩,
      fun succeeded => absurd succeeded nonzero⟩
    rintro ⟨known, texts, files, linkable, written⟩
    exact absurd written (never texts files known linkable)

variable {source out : Path} {type : String} {arch : Option String} {options : List String}

theorem run_compile_nvrtc
    (parsed : read words = .ok ⟨true, device, .compile source out type true arch options⟩) :
    NvrtcOutcome w source out arch options (run m read words w) := by
  have compiled (w₁ : World (Bench ν)) (text arch : String) (same : w.SameOutside w₁) :
      w.SameOutside (compileText m (nvrtcIf ν true) type text arch (sourceName source) options w₁).2 :=
    ((preserves_withNvrtc (World.outside_sameOutside w)).mapError _).bind
      (fun _ => Act.preserves_pure _) w₁ same
  rcases performed : perform m ⟨true, device, .compile source out type true arch options⟩ w with
    ⟨e | ⟨⟩, w'⟩
  · obtain ⟨nonzero, files⟩ := run_of_error parsed performed
    refine ⟨fun _ => ?_, fun succeeded => absurd succeeded nonzero⟩
    exact files.trans (onFailure_compileSource (fun _ same => same) compiled performed).files
  · rw [run_of_ok parsed performed]
    refine ⟨fun failed => absurd rfl failed, fun _ => ?_⟩
    obtain ⟨text, name, code, w₁, w₂, read, chosen, same, compiling, written⟩ :=
      compileSource_eq_ok performed
    have kept := compiled w₁ text name same
    rw [compiling] at kept
    obtain ⟨ptx, w₃, translating, done⟩ := Act.bind_eq_ok_iff.1 compiling
    obtain ⟨rfl, rfl⟩ := Act.pure_eq_ok_iff.1 done
    have translated : withNvrtc (Platform.inProcess m.system) text options
        name (sourceName source) w₁ = (.ok ptx, w₃) := Act.mapError_eq_ok_iff.1 translating
    obtain ⟨target, named, translated⟩ := withNvrtc_eq_ok translated
    rw [same.settings] at named
    exact ⟨text, name, target, ptx, read, chosen, named, translated,
      written_of_write (kept.files ▸ written)⟩

theorem run_compile_nvcc
    (parsed : read words = .ok ⟨true, device, .compile source out type false arch options⟩) :
    NvccOutcome m w source out type arch options (run m read words w) := by
  rcases performed : perform m ⟨true, device, .compile source out type false arch options⟩ w with
    ⟨e | ⟨⟩, w'⟩
  · obtain ⟨nonzero, files⟩ := run_of_error parsed performed
    refine ⟨fun sound here new keeps _ => ?_, fun succeeded => absurd succeeded nonzero⟩
    rw [files]
    refine onFailure_compileSource (I := fun w' => FileTree.Unwritten _ w.files w'.files)
      (fun w₁ same => same.files ▸ .refl _ _) (fun w₁ text arch same => ?_) performed
    exact unwritten_compileText sound here new keeps same
  · rw [run_of_ok parsed performed]
    refine ⟨fun _ _ _ _ failed => absurd rfl failed, fun _ => ?_⟩
    obtain ⟨text, name, code, w₁, w₂, read, chosen, same, compiling, written⟩ :=
      compileSource_eq_ok performed
    obtain ⟨kind, w₃, parsing, compiling⟩ := Act.bind_eq_ok_iff.1 compiling
    obtain ⟨hkind, rfl⟩ := Act.ofExcept_eq_ok_iff.1 (Act.mapError_eq_ok_iff.1 parsing)
    have compiled := withNvcc_eq_ok (Act.mapError_eq_ok_iff.1 compiling)
    exact ⟨text, name, kind, code.bytes, _, read, chosen, hkind, compiled.congr same,
      written_of_write written⟩

end Tasks

/-- **Output is written only on success.** Take a command line that is accepted, with the in-process
driver, which has not been used yet. Linking succeeds exactly if there are inputs, all of known kind and all
modules, that define no kernel twice, the device is there and the output can be written. Then the output is
what the inputs are joined to; otherwise no file has changed. If compiling fails, no file in the working
directory has changed, provided that directories made for a time are new and that the programs that are run
change no file there; if it succeeds, the output is what the compiler made of the source. -/
theorem output_only_on_success (m : Machine ν) (read : Reader) (words : List Bytes)
    (w : World (Bench ν)) (i : Invocation) (parsed : read words = .ok i) (mock : i.mock = true)
    (unused : w.native.driver = .fresh) :
    let ended := run m read words w
    (∀ inputs out fallback, i.task = .link inputs out fallback →
      LinkOutcome w i.device inputs out fallback ended) ∧
    (∀ source out type arch options, i.task = .compile source out type true arch options →
      NvrtcOutcome w source out arch options ended) ∧
    ∀ source out type arch options, i.task = .compile source out type false arch options →
      NvccOutcome m w source out type arch options ended := by
  obtain ⟨_, device, task⟩ := i
  obtain rfl : _ = true := mock
  refine ⟨?_, ?_, ?_⟩
  · rintro inputs out fallback rfl
    exact run_link parsed unused
  · rintro source out type arch options rfl
    exact run_compile_nvrtc parsed
  · rintro source out type arch options rfl
    exact run_compile_nvcc parsed

/-! ### A module and a cubin -/

/-- A compiler that leaves a cubin in the directory that it is run in, whatever it is asked for. -/
def cubinCompiler : Executable := fun c files =>
  match files.locate c.directory with
  | .ok (here, some .directory) =>
    (⟨.exited 0, [], []⟩, files.put (here ++ [Utf8.encode "k.cubin"]) (.file (Utf8.encode "code")))
  | _ => (⟨.exited 1, [], []⟩, files)

/-- A machine with that compiler and without libraries. -/
def cubinMachine : Machine Unit where
  opener := fun _ => .error ""
  native := fun _ s => ({ code := 0 }, s)
  programs := fun place => if place = ["bin", "nvcc"].map Utf8.encode then some cubinCompiler else none
  makeTemporary := FileTree.makeNumbered

/-- The compiler keeps to the directory that it is run in. -/
theorem keepsDirectory_cubinMachine (d : Place) : KeepsDirectory cubinMachine.programs d := by
  intro place program given c files here located
  obtain rfl := Option.some.inj (Option.ite_none_right_eq_some.1 given).2
  have left : (cubinCompiler c files).2 =
      files.put (here ++ [Utf8.encode "k.cubin"]) (.file (Utf8.encode "code")) := by
    rw [cubinCompiler, located]
  rw [left]
  refine ⟨rfl, fun q outside => ⟨rfl, fun _ => FileTree.at?_put_of_ne ?_⟩⟩
  rintro rfl
  exact outside ⟨List.prefix_append _ _, by simp⟩

/-- A world with a source, a module and the compiler. -/
def moduleWorld : World (Bench Unit) where
  native := { vendor := () }
  files := ((fileWorld.files.put ([] ++ [Utf8.encode "k.ptx"])
    (.file (Utf8.encode (Ptx.kernelModule 0)))).put ([] ++ [Utf8.encode "bin"]) .directory).put
      ([Utf8.encode "bin"] ++ [Utf8.encode "nvcc"]) (.file [])

theorem sound_moduleWorld : moduleWorld.files.Sound :=
  ((sound_fileWorld.put rfl (by decide) _).put rfl (by decide) _).put rfl (by decide) _

/-- Links the module. -/
def linkWords : List Bytes := ["--mock", "link", "-o", "out", "k.ptx"].map Utf8.encode

/-- Compiles the source to code of a type. -/
def compileWords (type : String) : List Bytes :=
  ["--mock", "compile", "--arch", "70", "--code-type", type, "-o", "out", "k.cu"].map Utf8.encode

/-- The module is linked to itself with a line feed behind it. The compiler runs on the source both times.
The cubin that it leaves is the output; there is no PTX text, so that asking for one fails, and the files
in the working directory stay what they were. -/
theorem output_only_on_success_module :
    let linked := run cubinMachine Invocation.parse linkWords moduleWorld
    let compiled := run cubinMachine Invocation.parse (compileWords "cubin") moduleWorld
    let failed := run cubinMachine Invocation.parse (compileWords "ptx") moduleWorld
    (linked.1 = 0 ∧
      linked.2.files.read (Utf8.encode "out") = .ok (Utf8.encode (joinedText [Ptx.kernelModule 0]))) ∧
    (compiled.1 = 0 ∧ compiled.2.files.read (Utf8.encode "out") = .ok (Utf8.encode "code")) ∧
    failed.1 ≠ 0 ∧ failed.2.files.at? [Utf8.encode "k.cu"] = some (.file []) := by
  intro linked compiled failed
  have text : moduleWorld.files.read (Utf8.encode "k.ptx") = .ok (Utf8.encode (Ptx.kernelModule 0)) := rfl
  have linkable : Linkable moduleWorld.files none [Utf8.encode "k.ptx"] [Ptx.kernelModule 0] := {
    given := List.cons_ne_nil _ _
    known := List.forall_mem_singleton.2 (Or.inl (by decide +kernel))
    hold := .cons ⟨_, text, imageText?_kernelModule, Ptx.isModule_kernelModule 0⟩ .nil
    distinct := by simp [Ptx.symbols_kernelModule] }
  have parsed : Invocation.parse linkWords =
      .ok ⟨true, 0, .link [Utf8.encode "k.ptx"] (Utf8.encode "out") none⟩ := by decide +kernel
  have linking := (output_only_on_success cubinMachine Invocation.parse linkWords moduleWorld _ parsed rfl
    rfl).1 _ _ _ rfl
  have zero : linked.1 = 0 := linking.succeeds.2 ⟨⟨by decide, by decide⟩, _, _, linkable, rfl⟩
  have done : compiled.1 = 0 ∧ compiled.2.files.read (Utf8.encode "out") = .ok (Utf8.encode "code") := by
    decide +kernel
  have parsed : Invocation.parse (compileWords "ptx") = .ok ⟨true, 0, .compile (Utf8.encode "k.cu")
      (Utf8.encode "out") "ptx" false (some "70") []⟩ := by decide +kernel
  have compiling := (output_only_on_success cubinMachine Invocation.parse (compileWords "ptx") moduleWorld
    _ parsed rfl rfl).2.2 _ _ _ _ _ rfl
  have nonzero : failed.1 ≠ 0 := by decide +kernel
  have unwritten := compiling.unwritten sound_moduleWorld rfl FileTree.makesFresh_makeNumbered
    (keepsDirectory_cubinMachine _) nonzero
  exact ⟨⟨zero, (linking.written zero _ linkable).read rfl⟩, done, nonzero,
    (unwritten.files _ _).2 rfl⟩

end GpuDriver.CommandLine
