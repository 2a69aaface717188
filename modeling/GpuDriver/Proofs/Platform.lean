import GpuDriver.Compile.Architecture
import GpuDriver.Compile.WithNvrtc
import GpuDriver.Proofs.Owned.Drop
import GpuDriver.Proofs.World

/-!
# What calls leave alone

A call of a driver or of a runtime compiler changes nothing but the state of the native libraries, on any
platform, and dropping an object only adds a warning to that (`World.Quiet`). So whatever is made of such
calls leaves the files, the environment and the settings as they are, whether it succeeds or fails: link
sessions, retains of primary contexts, and compilations with the runtime compiler
(`Compile.preserves_withNvrtc`). A command changes the files as its program does.
-/

namespace GpuDriver

open Owned

variable {σ : Type}

/-! ### Outside of the native libraries -/

namespace World

variable {w w' w'' : World σ}

/-- The second world is the first one but for the state of the native libraries and the warnings. -/
def Quiet (w w' : World σ) : Prop := ∃ native warnings, w' = { w with native, warnings }

theorem Quiet.refl (w : World σ) : w.Quiet w := ⟨w.native, w.warnings, rfl⟩

theorem Quiet.trans (h : w.Quiet w') (h' : w'.Quiet w'') : w.Quiet w'' := by
  obtain ⟨native, warnings, rfl⟩ := h
  obtain ⟨native', warnings', rfl⟩ := h'
  exact ⟨native', warnings', rfl⟩

theorem Warned.quiet (h : w.Warned w') : w.Quiet w' := by
  obtain ⟨warnings, rfl⟩ := h
  exact ⟨w.native, warnings, rfl⟩

/-- The second world has the files, the environment and the settings of the first. -/
structure SameOutside (w w' : World σ) : Prop where
  files : w'.files = w.files
  environment : w'.environment = w.environment
  settings : w'.settings = w.settings

theorem SameOutside.refl (w : World σ) : w.SameOutside w := ⟨rfl, rfl, rfl⟩

theorem SameOutside.trans (h : w.SameOutside w') (h' : w'.SameOutside w'') : w.SameOutside w'' where
  files := h'.files.trans h.files
  environment := h'.environment.trans h.environment
  settings := h'.settings.trans h.settings

theorem Quiet.sameOutside (h : w.Quiet w') : w.SameOutside w' := by
  obtain ⟨native, warnings, rfl⟩ := h
  exact ⟨rfl, rfl, rfl⟩

/-- The property tells no worlds apart that are the same outside. -/
def Outside (I : World σ → Prop) : Prop := ∀ w w', w.SameOutside w' → I w → I w'

theorem outside_sameOutside (w : World σ) : Outside w.SameOutside := fun _ _ same h => h.trans same

theorem outside_files (J : FileTree → Prop) : Outside fun w : World σ => J w.files :=
  fun _ w' same h => show J w'.files from same.files ▸ h

end World

variable {p : Platform σ} {t : ThreadId} {I : World σ → Prop}

/-! ### Calls -/

namespace Platform

theorem quiet_call (p : Platform σ) (t : ThreadId) (c : Driver.Call) (w : World σ) :
    w.Quiet (p.call t c w).2 := by
  have quiet : w.Quiet (p.ask t c w).2 := ⟨_, w.warnings, rfl⟩
  rw [call]
  cases asked : p.ask t c w with
  | mk reply w₁ =>
    rw [asked] at quiet
    cases reply with
    | ok value => exact quiet
    | error status => exact quiet.trans ⟨_, w₁.warnings, rfl⟩

theorem quiet_callNvrtc (p : Platform σ) (c : Nvrtc.Call) (w : World σ) :
    w.Quiet (p.callNvrtc c w).2 := by
  have quiet : w.Quiet (p.askNvrtc c w).2 := ⟨_, w.warnings, rfl⟩
  rw [callNvrtc]
  cases asked : p.askNvrtc c w with
  | mk reply w₁ =>
    rw [asked] at quiet
    rcases reply with (code | _) | value
    · exact quiet.trans ⟨_, w₁.warnings, rfl⟩
    · exact quiet
    · exact quiet

theorem preserves_call (hI : World.Outside I) (c : Driver.Call) : (p.call t c).Preserves I :=
  fun w hw => hI w _ (quiet_call p t c w).sameOutside hw

theorem preserves_callNvrtc (hI : World.Outside I) (c : Nvrtc.Call) : (p.callNvrtc c).Preserves I :=
  fun w hw => hI w _ (quiet_callNvrtc p c w).sameOutside hw

theorem preserves_runCommand {c : Command} {J : FileTree → Prop}
    (ran : ∀ files finished files', J files → p.run c files = .ok (finished, files') → J files') :
    (p.runCommand c).Preserves fun w => J w.files := by
  intro w hw
  rw [runCommand]
  split
  · exact hw
  · split
    · exact hw
    · exact ran _ _ _ hw ‹_›

theorem runCommand_eq_ok {c : Command} {finished : Finished} {w w' : World σ}
    (h : p.runCommand c w = (.ok finished, w')) :
    ∃ files, p.run c w.files = .ok (finished, files) ∧ w' = { w with files } := by
  rw [runCommand] at h
  split at h
  · cases h
  · split at h
    · cases h
    · obtain ⟨hfinished, rfl⟩ := Prod.mk.inj h
      obtain rfl := Except.ok.inj hfinished
      exact ⟨_, ‹_›, rfl⟩

end Platform

open Platform

section Outside

variable (hI : World.Outside I)

include hI

/-! ### Link sessions and contexts -/

namespace Owned

theorem LinkSession.preserves_add {l : LinkSession} {kind : ImageKind} {data : Bytes} {name : String} :
    (l.add p t kind data name).Preserves I := by
  refine (Act.preserves_ofExcept _).bind fun _ => ?_
  exact ((preserves_call hI _).mapError _).bind fun _ => Act.preserves_pure _

theorem PrimaryContext.preserves_retain {d : Device} : (retain p t d).Preserves I :=
  (preserves_call hI _).bind fun _ => Act.preserves_pure _

end Owned

/-! ### Compilations -/

theorem Driver.preserves_computeCapability {d : Device} : (computeCapability p t d).Preserves I :=
  (preserves_call hI _).bind fun _ => (preserves_call hI _).bind fun _ => Act.preserves_pure _

theorem Nvrtc.preserves_maxArchitecture : (maxArchitecture p).Preserves I := by
  refine (preserves_callNvrtc hI _).bind fun known => ?_
  split
  · exact Act.preserves_pure _
  · exact (preserves_callNvrtc hI _).bind fun _ => Act.preserves_pure _

namespace Owned

theorem Program.preserves_create {source name : String} : (create p source name).Preserves I := by
  refine (Act.preserves_ofExcept _).bind fun _ => (Act.preserves_ofExcept _).bind fun _ => ?_
  exact (preserves_callNvrtc hI _).bind fun _ => Act.preserves_pure _

theorem Program.preserves_compile {q : Program} {options : List String} :
    (q.compile p options).Preserves I :=
  (Act.preserves_ofExcept _).bind fun _ => preserves_callNvrtc hI _

end Owned

namespace Compile

/-- Reporting a failure and warning of it. -/
theorem preserves_refusal {α : Type} (failure : Failure) (message : String) : (do
    Act.change (report failure)
    Act.change fun w => w.warn message
    Act.fail (.compile failure) : Act σ Error α).Preserves I := by
  refine (Act.preserves_change fun w hw => hI w _ ?_ hw).bind fun _ => ?_
  · rw [report]
    split <;> exact ⟨rfl, rfl, rfl⟩
  · refine Act.Preserves.bind (Act.preserves_change fun w hw => ?_) fun _ => Act.preserves_fail _
    exact hI w _ ⟨rfl, rfl, rfl⟩ hw

theorem preserves_compileProgram {q : Program} {source filename : String} {options : List String} :
    (compileProgram p q source filename options).Preserves I := by
  refine Act.Preserves.bind (Act.Preserves.attempt (Program.preserves_compile hI)) fun answer => ?_
  rcases answer with e | ⟨⟩
  · cases e with
    | crash => exact Act.preserves_fail _
    | _ => exact (preserves_callNvrtc hI _).attempt.bind fun _ => preserves_refusal hI _ _
  · refine ((preserves_callNvrtc hI _).mapError _).bind fun ptx => ?_
    split
    · exact Act.preserves_fail _
    · exact Act.preserves_pure _

theorem preserves_defaultArchitecture {usesNvrtc : Bool} :
    (defaultArchitecture p t usesNvrtc).Preserves I := by
  refine ((preserves_call hI _).mapError _).bind fun device => ?_
  refine ((Driver.preserves_computeCapability hI).mapError _).bind fun (major, minor) => ?_
  dsimp only
  split
  · exact ((Nvrtc.preserves_maxArchitecture hI).mapError _).bind fun _ => Act.preserves_pure _
  · exact Act.preserves_pure _

end Compile

end Outside

/-! ### Dropping -/

namespace Owned

theorem LinkSession.quiet_drop (l : LinkSession) (w : World σ) : w.Quiet (l.drop p t w) := by
  by_cases null : l.handle = 0
  · rw [drop, if_pos null]
    exact .refl w
  · exact (quiet_call ..).trans (warned_drop null).quiet

theorem PrimaryContext.quiet_drop (c : PrimaryContext) (w : World σ) : w.Quiet (c.drop p t w) :=
  (quiet_call ..).trans c.warned_drop.quiet

theorem Program.quiet_drop (q : Program) (w : World σ) : w.Quiet (q.drop p w) :=
  (quiet_callNvrtc ..).trans q.warned_drop.quiet

end Owned

/-- **A compilation with the runtime compiler** changes nothing outside of the native libraries. -/
theorem Compile.preserves_withNvrtc (hI : World.Outside I) {source arch filename : String}
    {options : List String} : (withNvrtc p source options arch filename).Preserves I := by
  refine (Act.preserves_look _).bind fun _ => ?_
  refine ((Program.preserves_create hI).mapError _).bind fun q => ?_
  exact (preserves_compileProgram hI).thenClean fun w => hI w _ (q.quiet_drop w).sameOutside

end GpuDriver
