import GpuDriver.Compile.Failure
import GpuDriver.World

/-!
# Reporting failed compilations

A failure is dumped to standard error if that is asked for at the time of the failure.
-/

namespace GpuDriver.Compile

/-- The world after a failure was reported. -/
def report {σ : Type} (failure : Failure) (w : World σ) : World σ :=
  if w.settings.dumpsSource w.environment then w.complain failure.dump else w

/-- The options that ask for debug information. -/
def debugOptions (settings : Settings) : List String :=
  if settings.compileWithDebug then ["--device-debug", "--generate-line-info"] else []

end GpuDriver.Compile
