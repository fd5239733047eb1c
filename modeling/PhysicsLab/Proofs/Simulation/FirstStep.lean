import PhysicsLab.Proofs.Simulation.Stepping

/-!
# The step that a clock starts with

A clock starts with the step of its settings, in nanoseconds, and keeps it between a floor and a
ceiling.  Settings that pass the check have their step between the bounds that floor and ceiling are
made from, and the conversion to nanoseconds keeps the order of numbers, so the step is not changed.

The check lets the upper bound be infinite, while the conversion takes what is not finite for the
start of time.  The ceiling of such a clock is its floor, and so is its step.

## Main statements

* `Clock.step_ofSettings` — with which step a clock starts
* `Clock.step_ofSettings_unbounded`
-/

namespace PhysicsLab.Clock

open PhysicsLab.Number

variable {settings : SimulationSettings} {u : Float}

/-- What is not finite counts as the smallest step. -/
theorem stepOf_of_not_finite (hu : u.isFinite = false) : stepOf u = 1 := by
  have hstart : Instant.ofSeconds u = .start := by
    rw [Instant.ofSeconds, hu, Bool.false_and, if_neg Bool.false_ne_true]
  rw [stepOf, hstart]
  exact Nat.max_eq_left (Nat.zero_le 1)

/-- With an upper bound that is finite, or with fixed steps, the range of the clock holds the step
of the settings. -/
theorem stepOf_within_range (h : settings.check = .ok ())
    (hbound : settings.adaptive = true → settings.maxTimeStep.isFinite = true) :
    floorOf settings ≤ stepOf settings.timeStep ∧
      stepOf settings.timeStep ≤ ceilingOf settings := by
  obtain ⟨x, hstep, hx, -, hsmallest⟩ := exact_steps_of_check h
  by_cases hadaptive : settings.adaptive = true
  · rw [floorOf, ceilingOf, if_pos hadaptive, if_pos hadaptive]
    obtain ⟨y, hmin, hy, hle⟩ := hsmallest hadaptive
    have hconsistent := (SimulationSettings.check_eq_ok_iff.1 h).2
    obtain ⟨hmax, hle'⟩ :=
      exact_of_le hstep hx (hbound hadaptive) (hconsistent.step_within hadaptive).2
    exact ⟨stepOf_mono hmin hstep hy hle,
      (stepOf_mono hstep hmax hx hle').trans (Nat.le_max_left _ _)⟩
  · rw [floorOf, ceilingOf, if_neg hadaptive, if_neg hadaptive]
    exact ⟨Nat.min_le_right _ _, le_rfl⟩

/-- A clock starts with the step of its settings, unless the step is adaptive and has no finite
upper bound.  Then the clock starts with the smallest step, which is also the largest one that it
takes. -/
theorem step_ofSettings (h : settings.check = .ok ()) :
    1 ≤ stepOf settings.timeStep ∧
    ((settings.adaptive = true → settings.maxTimeStep.isFinite = true) →
      (ofSettings settings).step = stepOf settings.timeStep) ∧
    (settings.adaptive = true → settings.maxTimeStep.isFinite = false →
      (ofSettings settings).step = stepOf settings.minTimeStep ∧
        (ofSettings settings).ceiling = stepOf settings.minTimeStep) := by
  refine ⟨one_le_stepOf, fun hbound => ?_, fun hadaptive hbound => ?_⟩
  · obtain ⟨hlow, hhigh⟩ := stepOf_within_range h hbound
    show max (floorOf settings) (min (stepOf settings.timeStep) (ceilingOf settings)) = _
    rw [min_eq_left hhigh, max_eq_right hlow]
  · have hfloor : floorOf settings = stepOf settings.minTimeStep := if_pos hadaptive
    have hceiling : ceilingOf settings = stepOf settings.minTimeStep := by
      rw [ceilingOf, if_pos hadaptive, stepOf_of_not_finite hbound]
      exact Nat.max_eq_right one_le_stepOf
    refine ⟨?_, hceiling⟩
    show max (floorOf settings) (min (stepOf settings.timeStep) (ceilingOf settings)) = _
    rw [hfloor, hceiling]
    exact Nat.max_eq_left (Nat.min_le_right _ _)

/-- The step of a millisecond is kept where it may grow to the largest double, and it is kept where
it is fixed, whatever the bounds are. -/
theorem step_ofSettings_bounds :
    (ofSettings { maxTimeStep := 1.7976931348623157e308 }).step = 1000000 ∧
      (ofSettings { adaptive := false, minTimeStep := 0.0 / 0.0, maxTimeStep := 1.0 / 0.0 }).step =
        1000000 := by
  have hstep : stepOf 0.001 = 1000000 := by decide
  constructor
  · have hcheck : ({ maxTimeStep := 1.7976931348623157e308 } : SimulationSettings).check =
        .ok () := by decide +kernel
    exact ((step_ofSettings hcheck).2.1 fun _ => by decide +kernel).trans hstep
  · have hcheck : ({ adaptive := false, minTimeStep := 0.0 / 0.0, maxTimeStep := 1.0 / 0.0 } :
        SimulationSettings).check = .ok () := by decide
    exact ((step_ofSettings hcheck).2.1 fun hadaptive => by cases hadaptive).trans hstep

/-- Without a finite upper bound the step of a millisecond becomes one of ten microseconds. -/
theorem step_ofSettings_unbounded :
    let settings : SimulationSettings := { maxTimeStep := 1.0 / 0.0 }
    settings.check = .ok () ∧ stepOf settings.timeStep = 1000000 ∧
      (ofSettings settings).step = 10000 := by
  decide

end PhysicsLab.Clock
