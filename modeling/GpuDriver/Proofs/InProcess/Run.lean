import GpuDriver.InProcess.Step

/-!
# Runs of the in-process driver

A run is a list of events: calls, each made on some thread while the files are in some state. The calls
of several threads stand in it in the order in which the driver takes them, so that every interleaving is
a run. What holds of the fresh books and is kept by every event holds after every run
(`State.run_induction`).
-/

namespace GpuDriver.InProcess

/-- A call as it reaches the driver. -/
structure Event where
  /-- The thread that makes it. -/
  thread : ThreadId
  /-- The files that there are at that time. -/
  files : FileTree
  /-- The call. -/
  call : Driver.Call

namespace State

/-- The answer to an event. -/
def reply (s : State) (e : Event) : e.call.Reply := (step e.thread e.files e.call s).1

/-- The books after an event. -/
def after (s : State) (e : Event) : State := (step e.thread e.files e.call s).2

/-- The books after a run. -/
def run (s : State) (es : List Event) : State := es.foldl after s

@[simp] theorem run_nil (s : State) : s.run [] = s := rfl

@[simp] theorem run_cons (s : State) (e : Event) (es : List Event) :
    s.run (e :: es) = (s.after e).run es := rfl

theorem run_append (s : State) (es es' : List Event) : s.run (es ++ es') = (s.run es).run es' :=
  List.foldl_append

theorem run_concat (s : State) (es : List Event) (e : Event) :
    s.run (es ++ [e]) = (s.run es).after e :=
  run_append s es [e]

/-- What an event keeps, a run keeps. -/
theorem run_induction {P : State → Prop} (kept : ∀ s e, P s → P (s.after e)) {s : State} (h : P s)
    (es : List Event) : P (s.run es) := by
  induction es generalizing s with
  | nil => exact h
  | cons e es ih => exact ih (kept s e h)

end State

end GpuDriver.InProcess
