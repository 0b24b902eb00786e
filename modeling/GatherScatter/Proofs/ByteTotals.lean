import GatherScatter.Report
/-! # Byte totals -/

namespace GatherScatter

/-! ## Saturating products -/

theorem saturatingMul_saturatingMul (a b c : Nat) :
    saturatingMul a (saturatingMul b c) = saturatingMul (a * b) c := by
  unfold saturatingMul
  rw [Nat.mul_assoc]
  rcases Nat.le_total (b * c) wordMax with h | h
  · rw [Nat.min_eq_left h]
  · -- The inner product saturates; a nonzero `a` carries both sides past the largest word.
    rw [Nat.min_eq_right h]
    rcases Nat.eq_zero_or_pos a with rfl | pos
    · simp
    · have : wordMax ≤ a * wordMax := Nat.le_mul_of_pos_left wordMax pos
      have : a * wordMax ≤ a * (b * c) := Nat.mul_le_mul_left a h
      omega

theorem saturatingMul_le_saturatingMul {a a' b b' : Nat} (ha : a ≤ a') (hb : b ≤ b') :
    saturatingMul a b ≤ saturatingMul a' b' := by
  unfold saturatingMul
  have : a * b ≤ a' * b' := Nat.mul_le_mul ha hb
  omega

/-! ## The figures of a report -/

namespace Report

theorem totalBytes_eq (r : Report) :
    r.totalBytes = saturatingMul (r.nruns * r.patternLength) r.elementSize :=
  saturatingMul_saturatingMul _ _ _

theorem totalBytes_of_lt {r : Report} (h : r.nruns * r.bytesPerRun < wordLimit) :
    r.totalBytes = r.nruns * r.bytesPerRun :=
  saturatingMul_of_lt h

theorem bytesPerRun_le {r r' : Report} (hl : r.patternLength ≤ r'.patternLength)
    (he : r.elementSize ≤ r'.elementSize) : r.bytesPerRun ≤ r'.bytesPerRun :=
  saturatingMul_le_saturatingMul hl he

theorem totalBytes_le_totalBytes {r r' : Report} (hn : r.nruns ≤ r'.nruns)
    (hl : r.patternLength ≤ r'.patternLength) (he : r.elementSize ≤ r'.elementSize) :
    r.totalBytes ≤ r'.totalBytes :=
  saturatingMul_le_saturatingMul hn (bytesPerRun_le hl he)

/-- The byte figures are the products of their factors, each saturated once at the largest word. -/
theorem byte_figures (r : Report) :
    r.bytesPerRun = min (r.patternLength * r.elementSize) wordMax ∧
    r.totalBytes = min (r.nruns * r.patternLength * r.elementSize) wordMax ∧
    (r.nruns * r.bytesPerRun < wordLimit → r.totalBytes = r.nruns * r.bytesPerRun) ∧
    ∀ r' : Report, r.nruns ≤ r'.nruns → r.patternLength ≤ r'.patternLength →
      r.elementSize ≤ r'.elementSize → r.bytesPerRun ≤ r'.bytesPerRun ∧
        r.totalBytes ≤ r'.totalBytes :=
  ⟨rfl, totalBytes_eq r, totalBytes_of_lt,
    fun _ hn hl he => ⟨bytesPerRun_le hl he, totalBytes_le_totalBytes hn hl he⟩⟩

example : (⟨0, 2 ^ 62, 8, 1⟩ : Report).totalBytes = 0 ∧
    (⟨0, 2 ^ 62, 8, 1⟩ : Report).bytesPerRun = wordMax := by decide

theorem ten_runs_move_ten_times_one :
    (⟨10, 4, 8, 1⟩ : Report).nruns * (⟨10, 4, 8, 1⟩ : Report).bytesPerRun < wordLimit ∧
      (⟨10, 4, 8, 1⟩ : Report).totalBytes = 320 ∧
      (⟨10, 4, 8, 1⟩ : Report).totalBytes ≤ (⟨20, 4, 8, 1⟩ : Report).totalBytes := by
  obtain ⟨-, -, hexact, hmono⟩ := byte_figures ⟨10, 4, 8, 1⟩
  have hfits :
      (⟨10, 4, 8, 1⟩ : Report).nruns * (⟨10, 4, 8, 1⟩ : Report).bytesPerRun < wordLimit := by
    decide
  exact ⟨hfits, (hexact hfits).trans (by decide),
    (hmono ⟨20, 4, 8, 1⟩ (by decide) (by decide) (by decide)).2⟩

end Report

end GatherScatter
