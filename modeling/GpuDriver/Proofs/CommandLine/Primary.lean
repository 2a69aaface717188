import GpuDriver.CommandLine.Run
import GpuDriver.Proofs.Owned.Success
import GpuDriver.Proofs.Platform

/-!
# Working in a primary context

A task starts the driver, retains the primary context of a device and makes it current. With the in-process
driver that has not been used yet, this succeeds exactly for its device (`inPrimary_cases`). Nothing changes
outside of the native libraries but what the task changes (`preserves_inPrimary`).
-/

namespace GpuDriver.CommandLine

open Owned InProcess InProcess.State

variable {ν α : Type} {w : World (Bench ν)}

/-- The books of the in-process driver once it has been started. -/
def started : State := { State.fresh with initialized := true }

/-- The books of the in-process driver when the program works in the primary context of its device. -/
def working : State := { started with
  lastHandle := 0x1100
  contexts := started.contexts.insert 0x1100 ⟨⟨0⟩, true⟩
  primaries := started.primaries.insert 0 ⟨0x1100, 1⟩
  stackOf := fun u => if u = mainThread then [0x1100] else [] }

theorem current_working : working.current mainThread = .ok 0x1100 := rfl

section Fresh

variable {system : System}

theorem openDriver_fresh (m : Machine ν) (fresh : w.native.driver = .fresh) :
    openDriver m true w = (.ok Bench.inProcessDriver, w.withDriver started) := by
  have init : State.step mainThread w.files (.init 0) w.native.driver = (.ok (), started) := by
    rw [fresh]
    rfl
  have opened : Driver.init (Platform.inProcess m.system) mainThread 0 w =
      (.ok (), w.withDriver started) := Platform.call_of_step init
  exact Act.bind_of_ok (Act.mapError_of_ok opened)

theorem hasDevice_started_iff {ordinal : Int} : started.HasDevice ⟨ordinal⟩ ↔ ordinal = 0 := by
  show 0 ≤ ordinal ∧ ordinal < 1 ↔ _
  omega

section Started

variable (system) (up : w.native.driver = started) (work : Doing ν α)

include up

/-- The primary context of the device is retained and becomes current. -/
theorem inPrimary_of_zero : ∃ context : PrimaryContext,
    inPrimary (Platform.inProcess system) 0 work w =
      work.thenClean (context.drop (Platform.inProcess system) mainThread) (w.withDriver working) := by
  let retained : State := { working with stackOf := started.stackOf }
  let context : PrimaryContext := { handle := 0x1100, device := ⟨0⟩ }
  have device : Driver.device (Platform.inProcess system) mainThread 0 w = (.ok ⟨0⟩, w) := by
    have asked : State.step mainThread w.files (.device 0) w.native.driver =
        (.ok ⟨0⟩, w.native.driver) := by
      rw [up]
      rfl
    exact Platform.call_of_step asked
  have retain : PrimaryContext.retain (Platform.inProcess system) mainThread ⟨0⟩ w =
      (.ok context, w.withDriver retained) := by
    have asked : State.step mainThread w.files (.retainPrimary ⟨0⟩) w.native.driver =
        (.ok 0x1100, retained) := by
      rw [up]
      rfl
    exact Act.bind_of_ok (Platform.call_of_step asked)
  have current : context.setCurrent (Platform.inProcess system) mainThread (w.withDriver retained) =
      (.ok (), w.withDriver working) := by
    have asked : State.step mainThread w.files (.setCurrentContext 0x1100) retained =
        (.ok (), working) := rfl
    have called : (Platform.inProcess system).call mainThread (.setCurrentContext 0x1100)
        (w.withDriver retained) = (.ok (), w.withDriver working) := Platform.call_of_step asked
    exact called
  refine ⟨context, ?_⟩
  refine (Act.bind_of_ok (Act.mapError_of_ok device)).trans ?_
  refine (Act.bind_of_ok (Act.mapError_of_ok retain)).trans ?_
  simp only [Act.thenClean]
  rw [Act.bind_of_ok (Act.mapError_of_ok current)]

/-- No other device is there. -/
theorem inPrimary_of_not_hasDevice {ordinal : Int} (unknown : ¬ started.HasDevice ⟨ordinal⟩) :
    ∃ e, inPrimary (Platform.inProcess system) ordinal work w = (.error e, w) := by
  have asked : State.step mainThread w.files (.device ordinal) w.native.driver =
      (.error .invalidDevice, w.native.driver) := by
    have refused : started.device ordinal = .error .invalidDevice := by
      have unknown : ¬ (0 ≤ ordinal ∧ ordinal < started.deviceCount) := unknown
      rw [State.device, State.requireDevice, if_neg unknown]
      rfl
    rw [up]
    exact congrArg started.asked refused
  have device : Driver.device (Platform.inProcess system) mainThread ordinal w =
      (.error (.ofStatus .invalidDevice), w) :=
    Platform.call_of_step_error asked
  exact ⟨_, Act.bind_of_error (Act.mapError_of_error device)⟩

/-- The driver that was just started has one device, and its primary context becomes current. -/
theorem inPrimary_cases (ordinal : Int) :
    (started.HasDevice ⟨ordinal⟩ ∧ ∃ context : PrimaryContext,
      inPrimary (Platform.inProcess system) ordinal work w =
        work.thenClean (context.drop (Platform.inProcess system) mainThread) (w.withDriver working)) ∨
    (¬ started.HasDevice ⟨ordinal⟩ ∧ ∃ e, inPrimary (Platform.inProcess system) ordinal work w =
      (.error e, w)) := by
  by_cases known : started.HasDevice ⟨ordinal⟩
  · left
    obtain rfl := hasDevice_started_iff.1 known
    exact ⟨known, inPrimary_of_zero system up work⟩
  · right
    exact ⟨known, inPrimary_of_not_hasDevice system up work known⟩

end Started

end Fresh

section Outside

variable {p : Platform (Bench ν)} {I : World (Bench ν) → Prop} (hI : World.Outside I)

include hI

theorem preserves_openDriver (m : Machine ν) : (openDriver m true).Preserves I :=
  ((Platform.preserves_call hI _).mapError _).bind fun _ => Act.preserves_pure _

theorem preserves_inPrimary {ordinal : Int} {work : Doing ν α} (h : work.Preserves I) :
    (inPrimary p ordinal work).Preserves I := by
  refine ((Platform.preserves_call hI _).mapError _).bind fun device => ?_
  refine ((PrimaryContext.preserves_retain hI).mapError _).bind fun context => ?_
  refine Act.Preserves.thenClean (((Platform.preserves_call hI _).mapError _).bind fun _ => h) ?_
  exact fun w => hI w _ (context.quiet_drop w).sameOutside

end Outside

end GpuDriver.CommandLine
