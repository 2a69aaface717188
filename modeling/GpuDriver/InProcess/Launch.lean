import GpuDriver.InProcess.Context

/-!
# Launches of the in-process driver

A launch is accepted if its kernel belongs to the current context, its grid is not empty, its block is
neither empty nor too large, and its arguments are given in one way only and as that way requires. It
leaves a record at the end of the list and changes nothing else.
-/

namespace GpuDriver.InProcess.State

/-- The size of the buffer that the arguments are given in, if they are given in one. -/
def bufferBytes (request : LaunchRequest) : Except Status (Option Nat) :=
  match request.options with
  | none => .ok none
  | some options => (OptionList.bufferSize OptionWord.pointee options).map some

/-- Records a launch. -/
def launch (s : State) (t : ThreadId) (request : LaunchRequest) : Except Status Unit × State :=
  s.provided (s.current t) fun context =>
    match s.functions.get? request.function with
    | none => (.error .invalidHandle, s)
    | some f =>
      if (s.modules.get? f.module).map (·.context) ≠ some context then (.error .invalidContext, s)
      else if request.config.grid.volume = 0 ∨ request.config.block.volume = 0 ∨
          request.config.block.volume > maxThreadsPerBlock then (.error .invalidValue, s)
      else if request.parameters.isSome ∧ request.options.isSome then (.error .invalidValue, s)
      else s.provided (bufferBytes request) fun buffer =>
        (.ok (), { s with launches := s.launches ++ [{
          function := request.function
          name := f.name
          config := request.config
          parameterCount := (request.parameters.map List.length).getD 0
          bufferBytes := buffer }] })

end GpuDriver.InProcess.State
