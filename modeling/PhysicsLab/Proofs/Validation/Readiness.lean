import PhysicsLab.Assembly
import PhysicsLab.Proofs.Number.Exact
import PhysicsLab.Proofs.Settings
import PhysicsLab.Proofs.Simulation.Trajectory
import PhysicsLab.Proofs.Validation.Findings

/-!
# Models that can be run and settings that are refused

The settings of a simulation are looked at twice.  Validation asks that duration and time step are
positive and finite; a step that is long for the duration is worth a warning only.  When a run is
prepared, every field has to be in its range and the fields have to go together.  The second look
sees all that the first one does, and more: a model that can be run may still be refused, because of
a field out of its range or because of fields that do not go together.  Settings that were checked
when they were read are never refused.

## Main definitions

* `SimulationSettings.Fits` — what is asked of settings beyond positive and finite numbers

## Main statements

* `Validation.isPositive_of_not_lt` — a range that starts above zero leaves positive numbers
* `Simulation.prepare_of_canRun`
-/

namespace PhysicsLab

open PhysicsLab.Number
open PhysicsLab.Validation

/-! ## §1 Beyond positive and finite numbers -/

namespace SimulationSettings

variable {s : SimulationSettings}

/-- Every field is in its range, the step is shorter than the duration, its bounds are in order, and
an adaptive step starts within them. -/
structure Fits (s : SimulationSettings) : Prop where
  inRange : s.InRange
  step_lt_duration : ¬ s.timeStep ≥ s.duration
  min_le_max : ¬ s.minTimeStep > s.maxTimeStep
  step_within : s.adaptive = true → s.minTimeStep ≤ s.timeStep ∧ s.timeStep ≤ s.maxTimeStep

theorem check_eq_ok_iff_fits : s.check = .ok () ↔
    (s.duration.isFinite = true ∧ s.timeStep.isFinite = true) ∧ s.Fits := by
  rw [check_eq_ok_iff]
  constructor
  · rintro ⟨hranges, hconsistent⟩
    exact ⟨hconsistent.finite, hranges, hconsistent.step_lt_duration, hconsistent.min_le_max,
      hconsistent.step_within⟩
  · rintro ⟨hfinite, h⟩
    exact ⟨h.inRange, hfinite, h.step_lt_duration, h.min_le_max, h.step_within⟩

theorem inconsistency?_ne_notFinite (hduration : s.duration.isFinite = true)
    (hstep : s.timeStep.isFinite = true) : s.inconsistency? ≠ some .notFinite := by
  unfold inconsistency?
  rw [if_neg (by simp [hduration, hstep])]
  -- Every further test names another cause.
  split_ifs <;> simp

/-- Settings that are refused although their numbers are finite have a field out of its range, or
fields that do not go together. -/
theorem of_check_eq_error {f : Failure} (hduration : s.duration.isFinite = true)
    (hstep : s.timeStep.isFinite = true) (h : s.check = .error f) :
    (¬ s.InRange ∧ f = .fields s.rangeFaults) ∨
      ∃ cause ≠ .notFinite, s.inconsistency? = some cause ∧ f = .settings cause := by
  unfold check at h
  split at h
  · cases hcause : s.inconsistency? with
    | none =>
      rw [hcause] at h
      cases h
    | some cause =>
      rw [hcause] at h
      refine .inr ⟨cause, fun hne => ?_, rfl, (Except.error.inj h).symm⟩
      exact inconsistency?_ne_notFinite hduration hstep (hne ▸ hcause)
  · next hranges =>
    refine .inl ⟨fun hin => hranges ?_, (Except.error.inj h).symm⟩
    rw [rangeFaults_eq_nil_iff.2 hin]
    rfl

end SimulationSettings

/-- Settings of a run that pass their check have settings of the simulation that pass theirs. -/
theorem RunSettings.check_simulation {settings : RunSettings} (h : settings.check = .ok ()) :
    settings.simulation.check = .ok () := by
  unfold check at h
  split at h
  · next hranges =>
    have hfaults : settings.simulation.rangeFaults = [] := by
      simp only [List.isEmpty_iff, RunSettings.rangeFaults, List.append_eq_nil_iff,
        List.map_eq_nil_iff] at hranges
      exact hranges.1.1.2
    rw [SimulationSettings.check, hfaults]
    exact h
  · cases h

/-! ## §2 What validation asks -/

namespace Validation

variable {m : Model} {s : SimulationSettings}

/-- A finite number in a range that starts above zero is positive. -/
theorem isPositive_of_not_lt {x low : Float} (hlow : low.isFinite = true)
    (hsign : signBit low = false) (hpos : 0 < (magnitude low).mantissa)
    (hfinite : x.isFinite = true) (h : ¬ x < low) : isPositive x = true := by
  have hexact : IsExact (absolute low) low := isExact_of_magnitude hlow hsign rfl
  rw [isPositive, hfinite, Bool.true_and]
  exact decide_eq_true (pos_of_not_lt hexact (mantissa_pos_iff.1 hpos) hfinite h)

/-- What a run is prepared with has a positive duration and a positive step. -/
theorem isPositive_of_check (h : s.check = .ok ()) :
    isPositive s.duration = true ∧ isPositive s.timeStep = true := by
  obtain ⟨⟨hduration, hstep⟩, hfits⟩ := SimulationSettings.check_eq_ok_iff_fits.1 h
  constructor
  · exact isPositive_of_not_lt (by decide) (by decide) (by decide)
      hduration hfits.inRange.duration
  · exact isPositive_of_not_lt (by decide) (by decide) (by decide)
      hstep hfits.inRange.timeStep.1

/-- The only errors about settings are numbers that are not positive. -/
theorem isError_settingsFindings_iff :
    (∀ f ∈ settingsFindings s, f.isError = false) ↔
      isPositive s.duration = true ∧ isPositive s.timeStep = true := by
  simp only [settingsFindings, List.forall_mem_append, forall_mem_findIf, Bool.not_eq_true']
  constructor
  · rintro ⟨⟨hduration, hstep⟩, -⟩
    rw [← Bool.not_eq_false, ← Bool.not_eq_false]
    exact ⟨fun h => (by cases hduration h), fun h => (by cases hstep h)⟩
  · rintro ⟨hduration, hstep⟩
    rw [hduration, hstep]
    exact ⟨⟨fun h => absurd h.symm Bool.false_ne_true, fun h => absurd h.symm Bool.false_ne_true⟩,
      fun _ => rfl⟩

theorem settingsFindings_subset_structural (hsimulation : m.simulation = some s) :
    settingsFindings s ⊆ structural m := by
  intro f hf
  simp only [structural, hsimulation, List.mem_append]
  exact .inl (.inl (.inr hf))

/-- A model that can be run has settings with a positive duration and a positive step. -/
theorem exists_simulation_of_canRun (h : (validate m).canRun = true) :
    ∃ s, m.simulation = some s ∧
      isPositive s.duration = true ∧ isPositive s.timeStep = true := by
  have hstructural : ∀ f ∈ structural m, f.isError = false :=
    canRun_validate_iff.1 h .structural rfl
  cases hsimulation : m.simulation with
  | none =>
    have hmissing : Finding.missingSection "simulation" ∈ structural m := by
      simp [structural, hsimulation, mem_findIf]
    cases hstructural _ hmissing
  | some s =>
    refine ⟨s, rfl, isError_settingsFindings_iff.1 fun f hf => ?_⟩
    exact hstructural f (settingsFindings_subset_structural hsimulation hf)

end Validation

/-! ## §3 What a run is prepared with -/

theorem isFinite_of_isPositive {x : Float} (h : isPositive x = true) : x.isFinite = true :=
  (Bool.and_eq_true_iff.1 h).1

namespace Simulation

theorem prepare_eq_error {m : Model} {settings : SimulationSettings} {f : Failure}
    (h : prepare m settings = .error f) : settings.check = .error f := by
  unfold prepare at h
  cases hcheck : settings.check with
  | error g =>
    rw [hcheck] at h
    exact congrArg Except.error (Except.error.inj h)
  | ok _ =>
    rw [hcheck] at h
    cases h

theorem exists_prepare_iff {m : Model} {settings : SimulationSettings} :
    (∃ s, prepare m settings = .ok s) ↔ settings.check = .ok () :=
  ⟨fun ⟨_, h⟩ => (prepare_eq_ok h).1, fun h => ⟨_, prepare_eq_of_check h⟩⟩

/-- How far validation answers for the settings of a simulation.

* A model that can be run has settings with a positive and finite duration and step.  A run of it
  can be prepared exactly if they fit besides; if not, the reason is a field out of its range, or
  else the first of the fields that do not go together.
* If a run of a model can be prepared, then validation finds no error about its settings.
* A problem that says nothing about its simulation gets the settings of the run, and if they passed
  their check, then a run can be prepared. -/
theorem prepare_of_canRun :
    (∀ m, (validate m).canRun = true → ∃ s, m.simulation = some s ∧
      (isPositive s.duration = true ∧ isPositive s.timeStep = true) ∧
      ((∃ simulation, prepare m m.simulationSettings = .ok simulation) ↔ s.Fits) ∧
      ∀ f, prepare m m.simulationSettings = .error f →
        (¬ s.InRange ∧ f = .fields s.rangeFaults) ∨
          ∃ cause ≠ .notFinite, s.inconsistency? = some cause ∧ f = .settings cause) ∧
    (∀ m, (∃ simulation, prepare m m.simulationSettings = .ok simulation) →
      ∀ s ∈ m.simulation, ∀ f ∈ settingsFindings s, f.isError = false) ∧
    ∀ (p : Problem) (l : Library) (settings : RunSettings), p.simulation = none →
      settings.check = .ok () → ∃ simulation, prepare (p.toModel l settings)
        (p.toModel l settings).simulationSettings = .ok simulation := by
  refine ⟨fun m hrun => ?_, fun m hprepare s hs => ?_, fun p l settings hnone hcheck => ?_⟩
  · obtain ⟨s, hs, hduration, hstep⟩ := exists_simulation_of_canRun hrun
    have hsettings : m.simulationSettings = s := by rw [Model.simulationSettings, hs]; rfl
    have hfinite := And.intro (isFinite_of_isPositive hduration) (isFinite_of_isPositive hstep)
    rw [hsettings, exists_prepare_iff, SimulationSettings.check_eq_ok_iff_fits]
    refine ⟨s, hs, ⟨hduration, hstep⟩, and_iff_right hfinite, fun f hf => ?_⟩
    exact SimulationSettings.of_check_eq_error hfinite.1 hfinite.2 (prepare_eq_error hf)
  · have hsettings : m.simulationSettings = s := by
      rw [Model.simulationSettings, Option.mem_def.1 hs]
      rfl
    rw [hsettings] at hprepare
    exact isError_settingsFindings_iff.2 (isPositive_of_check (exists_prepare_iff.1 hprepare))
  · have hsettings : (p.toModel l settings).simulationSettings = settings.simulation := by
      show p.simulation.getD settings.simulation = _
      rw [hnone]
      rfl
    rw [hsettings]
    exact exists_prepare_iff.2 (RunSettings.check_simulation hcheck)

/-- A problem with a coarse and even step. -/
def coarseProblem : Problem where
  simulation := some { duration := 0.1, timeStep := 0.02, adaptive := false }

/-- A run of its model can be prepared, although the step earns a warning.  The same holds of a
problem that leaves the settings to the run. -/
theorem prepare_coarseProblem :
    (validate (coarseProblem.toModel .empty {})).canRun = true ∧
      (∃ simulation, prepare (coarseProblem.toModel .empty {})
        (coarseProblem.toModel .empty {}).simulationSettings = .ok simulation) ∧
      (∀ s ∈ coarseProblem.simulation, settingsFindings s = [.coarseTimeStep 0.02 0.1] ∧
        ∀ f ∈ settingsFindings s, f.isError = false) ∧
      ∃ simulation, prepare (Problem.toModel {} .empty {})
        (Problem.toModel {} .empty {}).simulationSettings = .ok simulation := by
  have hrun : (validate (coarseProblem.toModel .empty {})).canRun = true := by decide
  obtain ⟨hcan, herrors, hleft⟩ := prepare_of_canRun
  obtain ⟨s, hs, -, hfits, -⟩ := hcan _ hrun
  obtain rfl := Option.some.inj hs
  have hranges : SimulationSettings.InRange
      { duration := 0.1, timeStep := 0.02, adaptive := false } :=
    SimulationSettings.rangeFaults_eq_nil_iff.1 (by decide)
  have hprepare := hfits.2 ⟨hranges, by decide, by decide, nofun⟩
  refine ⟨hrun, hprepare, fun s hs => ⟨?_, herrors _ hprepare s hs⟩, hleft {} .empty {} rfl rfl⟩
  obtain rfl := Option.some.inj hs
  decide

/-- The same step, which is to be adapted. -/
def adaptedProblem : Problem where
  simulation := some { duration := 0.1, timeStep := 0.02 }

/-- Its model can be run, and is refused because the step is above the highest that it may be. -/
theorem canRun_adaptedProblem_refused :
    (validate (adaptedProblem.toModel .empty {})).canRun = true ∧
      prepare (adaptedProblem.toModel .empty {})
          (adaptedProblem.toModel .empty {}).simulationSettings =
        .error (.settings (.stepOutsideBounds 0.02 1e-5 0.01)) := by
  refine ⟨by decide, ?_⟩
  have hcheck : SimulationSettings.check { duration := 0.1, timeStep := 0.02 } =
      .error (.settings (.stepOutsideBounds 0.02 1e-5 0.01)) := rfl
  have hsettings : (adaptedProblem.toModel .empty {}).simulationSettings =
      { duration := 0.1, timeStep := 0.02 } := rfl
  rw [hsettings, prepare, hcheck]
  rfl

end Simulation

end PhysicsLab
