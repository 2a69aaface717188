import GpuDriver.World

/-!
# Changing the settings

Settings are stored as a whole. They can be read from the environment again, which stores what it asks for
at the time; a variable that changes later does not change what is stored.
-/

namespace GpuDriver

namespace Environment

/-- The environment after a variable was set to a value, or removed. -/
def assign (env : Environment) (name : String) : Option Bytes → Environment
  | none => env.erase name
  | some value => env.insert name value

end Environment

namespace Settings

/-- What can be done to the settings and to the environment that they are read from. -/
inductive Change
  /-- A variable is set to a value, or removed. -/
  | assign (name : String) (value? : Option Bytes)
  /-- Settings are stored. -/
  | store (settings : Settings)
  /-- The settings that the environment asks for are stored. -/
  | reload
deriving DecidableEq, Repr

end Settings

namespace World

variable {σ : Type}

/-- The world after a change. -/
def configure (w : World σ) : Settings.Change → World σ
  | .assign name value? => { w with environment := w.environment.assign name value? }
  | .store settings => { w with settings }
  | .reload => { w with settings := .ofEnvironment w.environment }

end World

end GpuDriver
