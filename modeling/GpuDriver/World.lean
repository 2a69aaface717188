import GpuDriver.FileTree
import GpuDriver.Settings

/-!
# Actions on the world

What the library works on is one value: the state of the native libraries, the files, the environment,
the settings, and what has been said to the user. An action takes a world to an answer or an error, and
to the world after it; a failed action keeps what it did before it failed.
-/

namespace GpuDriver

/-- All that an action can see and change; `σ` is the state of the native libraries. -/
structure World (σ : Type) where
  /-- The state of the native libraries. -/
  native : σ
  /-- The files. -/
  files : FileTree := {}
  /-- The environment. -/
  environment : Environment := .empty
  /-- The settings that were stored last. -/
  settings : Settings := .ofEnvironment .empty
  /-- The warnings so far, oldest first. -/
  warnings : List String := []
  /-- What was written to standard error. -/
  console : Bytes := []
  /-- What was written to standard output. -/
  output : Bytes := []

namespace World

variable {σ : Type}

/-- The world after a warning. -/
def warn (w : World σ) (message : String) : World σ :=
  { w with warnings := w.warnings ++ [message] }

/-- The world after something was written to standard error. -/
def complain (w : World σ) (text : String) : World σ :=
  { w with console := w.console ++ Utf8.encode text }

/-- The world after a line was written to standard output. -/
def printLine (w : World σ) (line : String) : World σ :=
  { w with output := w.output ++ Utf8.encode (line ++ "\n") }

end World

/-- An action that answers with an `α` or fails with an `ε`. -/
def Act (σ ε α : Type) : Type := World σ → Except ε α × World σ

namespace Act

variable {σ ε δ α β : Type}

/-- The action that only answers. -/
def done (a : α) : Act σ ε α := fun w => (.ok a, w)

/-- The action that only fails. -/
def fail (e : ε) : Act σ ε α := fun w => (.error e, w)

/-- One action, and after its success the next. -/
def andThen (act : Act σ ε α) (next : α → Act σ ε β) : Act σ ε β := fun w =>
  match act w with
  | (.ok a, w) => next a w
  | (.error e, w) => (.error e, w)

instance : Monad (Act σ ε) where
  pure := done
  bind := andThen

/-- An answer or an error that was already found. -/
def ofExcept (answer : Except ε α) : Act σ ε α := fun w => (answer, w)

/-- The action with its errors seen as errors of another kind. -/
def mapError (f : ε → δ) (act : Act σ ε α) : Act σ δ α := fun w =>
  match act w with
  | (.ok a, w) => (.ok a, w)
  | (.error e, w) => (.error (f e), w)

/-- The action whose error is an answer. -/
def attempt (act : Act σ ε α) : Act σ δ (Except ε α) := fun w =>
  match act w with
  | (answer, w) => (.ok answer, w)

/-- Looks at the world. -/
def look (f : World σ → α) : Act σ ε α := fun w => (.ok (f w), w)

/-- Changes the world. -/
def change (f : World σ → World σ) : Act σ ε Unit := fun w => (.ok (), f w)

/-- Writes contents at a path. What is written to a standard stream is seen there. -/
def writeFile (p : Path) (contents : Bytes) : Act σ IoError Unit := fun w =>
  match w.files.write p contents with
  | .error e => (.error e, w)
  | .ok files =>
    match w.files.sink? p with
    | some .output => (.ok (), { w with output := w.output ++ contents })
    | some .errors => (.ok (), { w with console := w.console ++ contents })
    | _ => (.ok (), { w with files })

/-- The action, and after a failure of it `cleanup`. -/
def orElseClean (act : Act σ ε α) (cleanup : World σ → World σ) : Act σ ε α := fun w =>
  match act w with
  | (.ok a, w) => (.ok a, w)
  | (.error e, w) => (.error e, cleanup w)

/-- The action, and after it `cleanup`, whether it failed or not. -/
def thenClean (act : Act σ ε α) (cleanup : World σ → World σ) : Act σ ε α := fun w =>
  match act w with
  | (answer, w) => (answer, cleanup w)

/-- An action is as it was if there is nothing to clean up. -/
theorem thenClean_eq_self {act : Act σ ε α} {cleanup : World σ → World σ}
    (h : ∀ w, cleanup w = w) : act.thenClean cleanup = act :=
  funext fun _ => Prod.ext rfl (h _)

end Act

end GpuDriver
