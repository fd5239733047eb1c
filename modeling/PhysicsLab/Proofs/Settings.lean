import PhysicsLab.Failure

/-!
# Settings that pass the check

The check of the settings of a simulation says what is wrong with them.  Settings pass it exactly if
nothing is: no field is out of its range, and the fields go together.

A range is checked by comparing with its ends.  A field that is NaN is not beyond either of them, so
it passes unless it has to be finite.  Most thresholds have a lower end only, and infinity passes.

## Main definitions

* `SimulationSettings.InRange` — no field is out of its range
* `SimulationSettings.Consistent` — the fields go together

## Main statements

* `SimulationSettings.check_eq_ok_iff`
* `Thresholds.not_lt_of_rangeFaults` — no penalty is negative
-/

namespace PhysicsLab

theorem FieldFault.rangeIf_eq_nil_iff {field : String} {outside : Bool} :
    FieldFault.rangeIf field outside = [] ↔ ¬ outside = true := by
  cases outside <;> simp [FieldFault.rangeIf]

namespace SimulationSettings

variable {s : SimulationSettings}

/-- No field is out of its range. -/
structure InRange (s : SimulationSettings) : Prop where
  duration : ¬ s.duration < 1e-9
  timeStep : ¬ s.timeStep < 1e-12 ∧ ¬ s.timeStep > 10.0
  tolerance : ¬ s.tolerance < 1e-15
  outputStride : 1 ≤ s.outputStride
  minTimeStep : ¬ s.minTimeStep < 1e-12
  maxTimeStep : ¬ s.maxTimeStep < 1e-12
  maxIterations : 1 ≤ s.maxIterations
  shrinkFactor : ¬ s.shrinkFactor < 0.01 ∧ ¬ s.shrinkFactor > 0.99
  growthFactor : ¬ s.growthFactor < 1.0 ∧ ¬ s.growthFactor > 10.0
  minSuccessRatio : ¬ s.minSuccessRatio < 0.0 ∧ ¬ s.minSuccessRatio > 1.0

/-- The fields go together. -/
structure Consistent (s : SimulationSettings) : Prop where
  finite : s.duration.isFinite = true ∧ s.timeStep.isFinite = true
  step_lt_duration : ¬ s.timeStep ≥ s.duration
  min_le_max : ¬ s.minTimeStep > s.maxTimeStep
  step_within : s.adaptive = true → s.minTimeStep ≤ s.timeStep ∧ s.timeStep ≤ s.maxTimeStep

theorem rangeFaults_eq_nil_iff : s.rangeFaults = [] ↔ s.InRange := by
  simp only [rangeFaults, List.append_eq_nil_iff, FieldFault.rangeIf_eq_nil_iff, Bool.or_eq_true,
    decide_eq_true_eq, not_or, Nat.not_lt, and_assoc]
  constructor
  · rintro ⟨hduration, hlow, hhigh, htolerance, hstride, hmin, hmax, hiterations, hshrink, hshrink',
      hgrowth, hgrowth', hratio⟩
    exact ⟨hduration, ⟨hlow, hhigh⟩, htolerance, hstride, hmin, hmax, hiterations,
      ⟨hshrink, hshrink'⟩, ⟨hgrowth, hgrowth'⟩, hratio⟩
  · intro h
    exact ⟨h.duration, h.timeStep.1, h.timeStep.2, h.tolerance, h.outputStride, h.minTimeStep,
      h.maxTimeStep, h.maxIterations, h.shrinkFactor.1, h.shrinkFactor.2, h.growthFactor.1,
      h.growthFactor.2, h.minSuccessRatio⟩

theorem inconsistency?_eq_none_iff : s.inconsistency? = none ↔ s.Consistent := by
  -- One test after the other lets the settings pass.
  have hguard {c : Prop} [Decidable c] {cause : Inconsistency} {rest : Option Inconsistency} :
      (if c then some cause else rest) = none ↔ ¬ c ∧ rest = none := by
    split <;> simp [*]
  simp only [inconsistency?, hguard, Bool.not_eq_true', Bool.not_eq_false, Bool.and_eq_true,
    decide_eq_true_eq, not_and, and_true]
  constructor
  · rintro ⟨hfinite, hduration, hbounds, hwithin⟩
    exact ⟨hfinite, hduration, hbounds, hwithin⟩
  · intro h
    exact ⟨h.finite, h.step_lt_duration, h.min_le_max, h.step_within⟩

/-- Settings pass the check exactly if nothing is wrong with them. -/
theorem check_eq_ok_iff : s.check = .ok () ↔ s.InRange ∧ s.Consistent := by
  rw [← rangeFaults_eq_nil_iff, ← inconsistency?_eq_none_iff, check]
  by_cases hranges : s.rangeFaults = []
  · rw [hranges, List.isEmpty_nil, if_pos rfl]
    cases s.inconsistency? with
    | none => simp
    | some cause => simp
  · rw [if_neg (by rwa [List.isEmpty_iff])]
    simp [hranges]

end SimulationSettings

/-- Thresholds in range have no negative penalty. -/
theorem Thresholds.not_lt_of_rangeFaults {t : Thresholds} (h : t.rangeFaults = []) :
    ¬ t.constraintPenalty < 0.0 ∧ ¬ t.stabilityPenalty < 0.0 ∧ ¬ t.causalityPenalty < 0.0 := by
  simp only [rangeFaults, List.append_eq_nil_iff, FieldFault.rangeIf_eq_nil_iff,
    decide_eq_true_eq] at h
  obtain ⟨⟨⟨-, hconstraint⟩, hstability⟩, hcausality⟩ := h
  exact ⟨hconstraint, hstability, hcausality⟩

end PhysicsLab
