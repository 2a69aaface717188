import GpuDriver.Owned.Context
import GpuDriver.Owned.LinkSession
import GpuDriver.Owned.Module
import GpuDriver.Owned.Program

/-!
# What dropping leaves

To drop an owned object is to make one native call. All that its failure adds is a warning
(`World.Warned`). The driver is asked for the texts of the failure as part of the call; only for a module,
which may have gone with its context, this is done later, if the failure is to be warned of.
-/

namespace GpuDriver

variable {σ : Type} {w w' : World σ}

/-- The second world is the first one with other warnings. -/
def World.Warned (w w' : World σ) : Prop := ∃ warnings, w' = { w with warnings }

theorem World.Warned.native (h : w.Warned w') : w'.native = w.native := by
  obtain ⟨warnings, rfl⟩ := h
  rfl

namespace Owned

variable {p : Platform σ} {t : ThreadId}

theorem Context.warned_drop {c : Context} (nonzero : c.handle ≠ 0) :
    (p.call t (.destroyContext c.handle) w).2.Warned (c.drop p t w) := by
  rw [drop, if_neg nonzero, destroyRaw]
  rcases p.call t (.destroyContext c.handle) w with ⟨e | ⟨⟩, w'⟩ <;> exact ⟨_, rfl⟩

theorem PrimaryContext.warned_drop (c : PrimaryContext) :
    (p.call t (.releasePrimary c.device) w).2.Warned (c.drop p t w) := by
  rw [drop_eq, Driver.releasePrimary]
  rcases p.call t (.releasePrimary c.device) w with ⟨e | ⟨⟩, w'⟩ <;> exact ⟨_, rfl⟩

theorem LinkSession.warned_drop {l : LinkSession} (nonzero : l.handle ≠ 0) :
    (p.call t (.destroyLink l.handle) w).2.Warned (l.drop p t w) := by
  rw [drop, if_neg nonzero]
  rcases p.call t (.destroyLink l.handle) w with ⟨e | ⟨⟩, w'⟩ <;> exact ⟨_, rfl⟩

theorem Module.warned_drop {m : Module} (nonzero : m.handle ≠ 0) :
    (p.ask t (.unloadModule m.handle) w).2.Warned (m.drop p t w) ∨ ∃ status,
      (p.describe t status (p.ask t (.unloadModule m.handle) w).2).2.Warned (m.drop p t w) := by
  rw [drop, if_neg nonzero]
  rcases p.ask t (.unloadModule m.handle) w with ⟨status | ⟨⟩, w'⟩
  · dsimp only
    split
    · exact Or.inl ⟨_, rfl⟩
    · exact Or.inr ⟨status, _, rfl⟩
  · exact Or.inl ⟨_, rfl⟩

theorem Program.warned_drop (q : Program) :
    (p.callNvrtc (.destroy q.handle) w).2.Warned (q.drop p w) := by
  rw [drop]
  rcases p.callNvrtc (.destroy q.handle) w with ⟨e | ⟨⟩, w'⟩ <;> exact ⟨_, rfl⟩

end Owned

end GpuDriver
