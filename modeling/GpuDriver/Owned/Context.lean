import GpuDriver.Owned.Driver

/-!
# Owned contexts

A context that was created here, and a retain of a primary context. Each is given back exactly once:
on request, which reports a failure, or when it is dropped, which only warns of one. What is given back
on request is dropped after that like anything else. It is marked before, by a null handle or by a flag,
so that this drop does nothing.
-/

namespace GpuDriver.Owned

variable {σ : Type} (p : Platform σ) (t : ThreadId)

/-- A context that is destroyed when it is dropped. -/
structure Context where
  /-- The driver's handle. -/
  handle : Handle
  /-- The device that it is on. -/
  device : Device
deriving DecidableEq, Repr

namespace Context

/-- Creates a context on a device; the thread works in it from now on. -/
def create (d : Device) (flags : Nat) : Act σ CallError Context := do
  let handle ← p.call t (.createContext flags d)
  return ⟨handle, d⟩

/-- Makes the context current. -/
def setCurrent (c : Context) : Act σ CallError Unit := Driver.setCurrentContext p t (some c.handle)

/-- The context is the current one. -/
def isCurrent (c : Context) : Act σ CallError Bool := do
  let current ← Driver.currentContext p t
  return current == some c.handle

/-- Destroys the context of a handle. -/
def destroyRaw (raw : Handle) : Act σ CallError Unit := p.call t (.destroyContext raw)

/-- The world after the context was dropped. -/
def drop (c : Context) (w : World σ) : World σ :=
  if c.handle = 0 then w
  else match destroyRaw p t c.handle w with
    | (.ok (), w) => w
    | (.error e, w) =>
      w.warn ("failed to destroy context " ++ Text.hexLiteral c.handle ++ ": " ++ e.message)

/-- What is left of the context once its handle was taken. -/
def taken (c : Context) : Context := { c with handle := 0 }

/-- Destroys the context now, and drops what is left of it. -/
def destroy (c : Context) : Act σ CallError Unit :=
  (destroyRaw p t c.handle).thenClean (c.taken.drop p t)

@[simp] theorem drop_taken (c : Context) (w : World σ) : c.taken.drop p t w = w := if_pos rfl

/-- The drop after a context was destroyed adds nothing. -/
theorem destroy_eq (c : Context) : c.destroy p t = p.call t (.destroyContext c.handle) :=
  Act.thenClean_eq_self (c.drop_taken p t)

end Context

/-- A primary context that was retained. -/
structure Retain where
  /-- The driver's handle of the context. -/
  handle : Handle
  /-- The device. -/
  device : Device
  /-- It has been released again. -/
  released : Bool := false
deriving DecidableEq, Repr

namespace Retain

/-- The world after the retain was dropped. -/
def drop (r : Retain) (w : World σ) : World σ :=
  if r.released then w
  else match Driver.releasePrimary p t r.device w with
    | (.ok (), w) => w
    | (.error e, w) =>
      w.warn ("failed to release primary context of " ++ r.device.display ++ ": " ++ e.message)

end Retain

/-- A retain of a device's primary context, released when it is dropped. Releasing it takes it from its
owner, so that an owner has none that was released. -/
structure PrimaryContext extends Retain where
  /-- It has not been released. -/
  live : released = false := by rfl
deriving DecidableEq, Repr

namespace PrimaryContext

/-- Retains the primary context of a device; it is not made current. -/
def retain (d : Device) : Act σ CallError PrimaryContext := do
  let handle ← p.call t (.retainPrimary d)
  return { handle, device := d }

/-- Makes the context current. -/
def setCurrent (c : PrimaryContext) : Act σ CallError Unit :=
  Driver.setCurrentContext p t (some c.handle)

/-- The world after the retain was dropped. -/
def drop (c : PrimaryContext) (w : World σ) : World σ := c.toRetain.drop p t w

/-- What is left of the retain once it was marked as released. -/
def marked (c : PrimaryContext) : Retain := { c.toRetain with released := true }

/-- Releases the retain now, and drops what is left of it. -/
def release (c : PrimaryContext) : Act σ CallError Unit :=
  (Driver.releasePrimary p t c.device).thenClean (c.marked.drop p t)

@[simp] theorem drop_marked (c : PrimaryContext) (w : World σ) : c.marked.drop p t w = w :=
  if_pos rfl

/-- An owner's retain is released when it is dropped. -/
theorem drop_eq (c : PrimaryContext) (w : World σ) :
    c.drop p t w = match Driver.releasePrimary p t c.device w with
      | (.ok (), w) => w
      | (.error e, w) =>
        w.warn ("failed to release primary context of " ++ c.device.display ++ ": " ++ e.message) :=
  if_neg (by simp [c.live])

/-- The drop after a retain was released adds nothing. -/
theorem release_eq (c : PrimaryContext) : c.release p t = p.call t (.releasePrimary c.device) :=
  Act.thenClean_eq_self (c.drop_marked p t)

end PrimaryContext

end GpuDriver.Owned
