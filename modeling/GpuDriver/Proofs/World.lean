import GpuDriver.Proofs.FileTree
import GpuDriver.World

/-!
# Actions

An action is evaluated step by step: what comes after a step that succeeds goes on in the world that it
left, and what comes after one that fails is not done. What every step of an action preserves, whether the
step succeeds or fails, the action preserves (`Act.Preserves`).
-/

namespace GpuDriver

/-! ### Actions one after the other -/

namespace Act

variable {σ ε δ α β : Type} {act : Act σ ε α} {next : α → Act σ ε β} {w w' : World σ} {a : α}
  {e : ε}

theorem bind_of_ok (h : act w = (.ok a, w')) : (act >>= next) w = next a w' := by
  change act.andThen next w = next a w'
  rw [andThen, h]

theorem bind_of_error (h : act w = (.error e, w')) : (act >>= next) w = (.error e, w') := by
  change act.andThen next w = (.error e, w')
  rw [andThen, h]

theorem ofExcept_of_ok {answer : Except ε α} (h : answer = .ok a) :
    (ofExcept answer : Act σ ε α) w = (.ok a, w) := by
  rw [ofExcept, h]

theorem ofExcept_of_error {answer : Except ε α} (h : answer = .error e) :
    (ofExcept answer : Act σ ε α) w = (.error e, w) := by
  rw [ofExcept, h]

theorem look_eq (f : World σ → α) : (look f : Act σ ε α) w = (.ok (f w), w) := rfl

theorem attempt_of_ok (h : act w = (.ok a, w')) :
    (act.attempt : Act σ δ (Except ε α)) w = (.ok (.ok a), w') := by
  rw [attempt, h]

theorem attempt_of_error (h : act w = (.error e, w')) :
    (act.attempt : Act σ δ (Except ε α)) w = (.ok (.error e), w') := by
  rw [attempt, h]

theorem mapError_of_ok {f : ε → δ} (h : act w = (.ok a, w')) : act.mapError f w = (.ok a, w') := by
  rw [mapError, h]

theorem mapError_of_error {f : ε → δ} (h : act w = (.error e, w')) :
    act.mapError f w = (.error (f e), w') := by
  rw [mapError, h]

theorem orElseClean_of_ok {cleanup : World σ → World σ} (h : act w = (.ok a, w')) :
    act.orElseClean cleanup w = (.ok a, w') := by
  rw [orElseClean, h]

theorem orElseClean_of_error {cleanup : World σ → World σ} (h : act w = (.error e, w')) :
    act.orElseClean cleanup w = (.error e, cleanup w') := by
  rw [orElseClean, h]

theorem thenClean_of_ok {cleanup : World σ → World σ} (h : act w = (.ok a, w')) :
    act.thenClean cleanup w = (.ok a, cleanup w') := by
  rw [thenClean, h]

theorem thenClean_of_error {cleanup : World σ → World σ} (h : act w = (.error e, w')) :
    act.thenClean cleanup w = (.error e, cleanup w') := by
  rw [thenClean, h]

theorem bind_eq_ok_iff {b : β} {w' : World σ} : (act >>= next) w = (.ok b, w') ↔
    ∃ a w₁, act w = (.ok a, w₁) ∧ next a w₁ = (.ok b, w') := by
  rcases hact : act w with ⟨e | a, w₁⟩
  · simp [bind_of_error hact]
  · simp [bind_of_ok hact]

theorem bind_eq_error_iff : (act >>= next) w = (.error e, w') ↔
    act w = (.error e, w') ∨ ∃ a w₁, act w = (.ok a, w₁) ∧ next a w₁ = (.error e, w') := by
  rcases hact : act w with ⟨e' | a, w₁⟩
  · simp [bind_of_error hact]
  · simp [bind_of_ok hact]

theorem pure_eq_ok_iff {b : α} : (pure a : Act σ ε α) w = (.ok b, w') ↔ a = b ∧ w = w' := by
  simp [pure, done]

theorem look_eq_ok_iff {f : World σ → α} :
    (look f : Act σ ε α) w = (.ok a, w') ↔ f w = a ∧ w = w' := by
  simp [look]

theorem ofExcept_eq_ok_iff {answer : Except ε α} :
    (ofExcept answer : Act σ ε α) w = (.ok a, w') ↔ answer = .ok a ∧ w = w' := by
  simp [ofExcept]

theorem attempt_eq_ok_iff {answer : Except ε α} :
    (act.attempt : Act σ δ (Except ε α)) w = (.ok answer, w') ↔ act w = (answer, w') := by
  rcases hact : act w with ⟨e | a, w₁⟩
  · simp [attempt_of_error hact]
  · simp [attempt_of_ok hact]

theorem mapError_eq_ok_iff {f : ε → δ} :
    act.mapError f w = (.ok a, w') ↔ act w = (.ok a, w') := by
  rcases hact : act w with ⟨e | a, w₁⟩
  · simp [mapError_of_error hact]
  · simp [mapError_of_ok hact]

theorem mapError_eq_error_iff {f : ε → δ} {d : δ} :
    act.mapError f w = (.error d, w') ↔ ∃ e, act w = (.error e, w') ∧ f e = d := by
  rcases hact : act w with ⟨e | a, w₁⟩
  · simp [mapError_of_error hact, and_comm]
  · simp [mapError_of_ok hact]

theorem orElseClean_eq_ok_iff {cleanup : World σ → World σ} :
    act.orElseClean cleanup w = (.ok a, w') ↔ act w = (.ok a, w') := by
  rcases hact : act w with ⟨e | a, w₁⟩
  · simp [orElseClean_of_error hact]
  · simp [orElseClean_of_ok hact]

theorem thenClean_eq_ok_iff {cleanup : World σ → World σ} :
    act.thenClean cleanup w = (.ok a, w') ↔ ∃ w₁, act w = (.ok a, w₁) ∧ cleanup w₁ = w' := by
  rcases hact : act w with ⟨e | a, w₁⟩
  · simp [thenClean_of_error hact]
  · simp [thenClean_of_ok hact]

theorem orElseClean_eq_error_iff {cleanup : World σ → World σ} :
    act.orElseClean cleanup w = (.error e, w') ↔ ∃ w₁, act w = (.error e, w₁) ∧ cleanup w₁ = w' := by
  rcases hact : act w with ⟨e' | a, w₁⟩
  · simp [orElseClean_of_error hact]
  · simp [orElseClean_of_ok hact]

theorem thenClean_eq_error_iff {cleanup : World σ → World σ} :
    act.thenClean cleanup w = (.error e, w') ↔ ∃ w₁, act w = (.error e, w₁) ∧ cleanup w₁ = w' := by
  rcases hact : act w with ⟨e' | a, w₁⟩
  · simp [thenClean_of_error hact]
  · simp [thenClean_of_ok hact]

theorem fst_bind_pure_eq_ok_iff {f : α → β} {b : β} :
    ((act >>= fun a => pure (f a)) w).1 = .ok b ↔ ∃ a, (act w).1 = .ok a ∧ f a = b := by
  rcases hact : act w with ⟨e | a, w'⟩
  · simp [bind_of_error hact]
  · rw [bind_of_ok hact]
    simp [pure, done]

/-! ### What an action preserves -/

/-- What holds before the action holds after it, whatever it answers. -/
def Preserves (I : World σ → Prop) (act : Act σ ε α) : Prop := ∀ w, I w → I (act w).2

section Preserves

variable {I : World σ → Prop}

theorem preserves_pure (a : α) : (pure a : Act σ ε α).Preserves I := fun _ hw => hw

theorem preserves_fail (e : ε) : (fail e : Act σ ε α).Preserves I := fun _ hw => hw

theorem preserves_look (f : World σ → α) : (look f : Act σ ε α).Preserves I := fun _ hw => hw

theorem preserves_ofExcept (answer : Except ε α) : (ofExcept answer : Act σ ε α).Preserves I :=
  fun _ hw => hw

theorem preserves_change {f : World σ → World σ} (h : ∀ w, I w → I (f w)) :
    (change f : Act σ ε Unit).Preserves I := h

theorem snd_mapError (f : ε → δ) : (act.mapError f w).2 = (act w).2 := by
  rcases hact : act w with ⟨e | a, w₁⟩
  · rw [mapError_of_error hact]
  · rw [mapError_of_ok hact]

theorem snd_bind (h : I (act w).2) (hnext : ∀ a, (next a).Preserves I) :
    I ((act >>= next) w).2 := by
  rcases hact : act w with ⟨e | a, w₁⟩
  · rw [hact] at h
    rw [bind_of_error hact]
    exact h
  · rw [hact] at h
    rw [bind_of_ok hact]
    exact hnext a w₁ h

theorem snd_orElseClean (h : I (act w).2) {cleanup : World σ → World σ}
    (hclean : ∀ w, I w → I (cleanup w)) : I (act.orElseClean cleanup w).2 := by
  rcases hact : act w with ⟨e | a, w₁⟩
  · rw [hact] at h
    rw [orElseClean_of_error hact]
    exact hclean w₁ h
  · rw [hact] at h
    rw [orElseClean_of_ok hact]
    exact h

theorem snd_thenClean {cleanup : World σ → World σ} :
    (act.thenClean cleanup w).2 = cleanup (act w).2 := by
  rcases hact : act w with ⟨e | a, w₁⟩
  · rw [thenClean_of_error hact]
  · rw [thenClean_of_ok hact]

theorem Preserves.bind (h : act.Preserves I) (hnext : ∀ a, (next a).Preserves I) :
    (act >>= next).Preserves I :=
  fun w hw => snd_bind (h w hw) hnext

theorem Preserves.mapError (h : act.Preserves I) (f : ε → δ) : (act.mapError f).Preserves I :=
  fun w hw => by
    rw [snd_mapError]
    exact h w hw

theorem Preserves.attempt (h : act.Preserves I) :
    (act.attempt : Act σ δ (Except ε α)).Preserves I := h

theorem Preserves.orElseClean (h : act.Preserves I) {cleanup : World σ → World σ}
    (hclean : ∀ w, I w → I (cleanup w)) : (act.orElseClean cleanup).Preserves I :=
  fun w hw => snd_orElseClean (h w hw) hclean

theorem Preserves.thenClean (h : act.Preserves I) {cleanup : World σ → World σ}
    (hclean : ∀ w, I w → I (cleanup w)) : (act.thenClean cleanup).Preserves I :=
  fun w hw => by
    rw [snd_thenClean]
    exact hclean _ (h w hw)

end Preserves

/-! ### What holds after a failure -/

/-- Where `I` held before the action, `I'` holds after it if it fails. -/
def OnFailure (I I' : World σ → Prop) (act : Act σ ε α) : Prop :=
  ∀ w, I w → ∀ e w', act w = (.error e, w') → I' w'

section OnFailure

variable {I I₁ I' : World σ → Prop}

theorem OnFailure.mapError (h : act.OnFailure I I') (f : ε → δ) : (act.mapError f).OnFailure I I' := by
  intro w hw d w' failed
  obtain ⟨e, failed, -⟩ := mapError_eq_error_iff.1 failed
  exact h w hw e w' failed

/-- Whether a step fails or the rest does, what the step leaves counts. -/
theorem onFailure_bind (hact : ∀ w, I w → I₁ (act w).2) (weaker : ∀ w, I₁ w → I' w)
    (hnext : ∀ a, (next a).OnFailure I₁ I') : (act >>= next).OnFailure I I' := by
  intro w hw e w' failed
  have left := hact w hw
  obtain failed | ⟨a, w₁, done, failed⟩ := bind_eq_error_iff.1 failed
  · rw [failed] at left
    exact weaker _ left
  · rw [done] at left
    exact hnext a w₁ left e w' failed

theorem Preserves.onFailure_bind (h : act.Preserves I) (hnext : ∀ a, (next a).OnFailure I I) :
    (act >>= next).OnFailure I I :=
  Act.onFailure_bind h (fun _ hw => hw) hnext

/-- What comes after the last step that can fail does not count. -/
theorem OnFailure.bind_ok (h : act.OnFailure I I')
    (hnext : ∀ a w, ∃ b w', next a w = (.ok b, w')) : (act >>= next).OnFailure I I' := by
  intro w hw e w' failed
  obtain failed | ⟨a, w₁, -, failed⟩ := bind_eq_error_iff.1 failed
  · exact h w hw e w' failed
  · obtain ⟨b, w₂, ended⟩ := hnext a w₁
    cases ended.symm.trans failed

end OnFailure

/-! ### Writing -/

section Write

variable {p : Path} {contents : Bytes} {w w' : World σ} {files : FileTree}

theorem writeFile_of_error {e : IoError} (h : w.files.write p contents = .error e) :
    writeFile p contents w = (.error e, w) := by
  rw [writeFile, h]

/-- What is written changes the files as writing does; else only what was said to the user changes. -/
theorem writeFile_of_ok (h : w.files.write p contents = .ok files) : ∃ console output,
    writeFile p contents w = (.ok (), { w with files, console, output }) := by
  have kept {k : Sink} (hk : w.files.sink? p = some k) : files = w.files :=
    FileTree.eq_of_write_sink h hk
  rw [writeFile, h]
  dsimp only
  split
  · obtain rfl := kept ‹_›
    exact ⟨_, _, rfl⟩
  · obtain rfl := kept ‹_›
    exact ⟨_, _, rfl⟩
  · exact ⟨_, _, rfl⟩

theorem writeFile_eq_ok (h : writeFile p contents w = (.ok (), w')) : ∃ files console output,
    w.files.write p contents = .ok files ∧ w' = { w with files, console, output } := by
  cases written : w.files.write p contents with
  | error e =>
    rw [writeFile_of_error written] at h
    cases h
  | ok files =>
    obtain ⟨console, output, ended⟩ := writeFile_of_ok written
    exact ⟨files, console, output, rfl, (congrArg Prod.snd (ended.symm.trans h)).symm⟩

/-- What is written comes to standard error if the path leads there. -/
theorem console_of_writeFile (h : writeFile p contents w = (.ok (), w')) :
    w'.console = w.console ++ if w.files.sink? p = some .errors then contents else [] := by
  rw [writeFile] at h
  split at h
  · cases h
  · split at h
    all_goals rename_i keeps; obtain rfl := (Prod.mk.inj h).2
    · rw [if_neg (by simp [keeps]), List.append_nil]
    · rw [if_pos keeps]
    · rw [if_neg keeps, List.append_nil]

/-- What could not be written has changed nothing. -/
theorem onFailure_writeFile {I : World σ → Prop} : (writeFile p contents).OnFailure I I := by
  intro w hw e w' failed
  cases written : w.files.write p contents with
  | error e' =>
    obtain ⟨-, rfl⟩ := Prod.mk.inj ((writeFile_of_error written).symm.trans failed)
    exact hw
  | ok files =>
    obtain ⟨console, output, ended⟩ := writeFile_of_ok written
    cases ended.symm.trans failed

end Write

/-- What is written at a path comes to the place that the path leads to, or to no place. -/
theorem files_writeFile (p : Path) (contents : Bytes) (w : World σ) :
    (writeFile p contents w).2.files = w.files ∨ ∃ place node?,
      w.files.locate p = .ok (place, node?) ∧
        (writeFile p contents w).2.files = w.files.put place (.file contents) := by
  cases written : w.files.write p contents with
  | error e => exact Or.inl (by rw [writeFile_of_error written])
  | ok files =>
    obtain ⟨console, output, ended⟩ := writeFile_of_ok written
    rw [ended]
    exact FileTree.write_cases written

end Act

end GpuDriver
