import PhysicsLab.Proofs.Simulation.Budget
import PhysicsLab.Proofs.Simulation.Instant

/-!
# How runs end

A run gives a result, or it is given up: because a step would be too short, because the attempts
are used up, or because somebody has cancelled it.  There is one other way for it to end.  The clock
counts nanoseconds, but a sample has its time in seconds, and is refused if that is not later than
the time of the last one.  This does not happen up to 8388608 seconds.  Beyond, a run can step from
one instant to another that has the same seconds.

## Main definitions

* `Simulation.GivenUp` — the causes for which a run is given up
* `Simulation.Stopped` — how an attempt ends a run
* `Simulation.Coincide` — instants of a run that have the same seconds

## Main statements

* `Simulation.attempt_eq_error`, `Simulation.Stepping.ending` — one attempt, and the whole loop
* `Simulation.run_outcome`
-/

namespace PhysicsLab

open PhysicsLab.Number

namespace Simulation

variable {s : Simulation} {p p' : Progress} {f : Failure} {cancelAfter : Option Nat}
  {settings : SimulationSettings}

/-! ## §1 Attempts that end a run -/

/-- The causes for which a run is given up. -/
inductive GivenUp (settings : SimulationSettings) (cancelAfter : Option Nat) : Failure → Prop
  | stepCollapse (time step : Float) : GivenUp settings cancelAfter (.stepCollapse time step)
  | iterationCap : GivenUp settings cancelAfter (.iterationCap settings.maxIterations)
  | cancelled (time : Float) (hcancel : cancelAfter.isSome = true) :
    GivenUp settings cancelAfter (.cancelled time)

/-- How an attempt ends a run: its step cannot be halved, or its sample does not follow. -/
inductive Stopped (s : Simulation) (p : Progress) : Failure → Prop
  | collapsed (time step : Float) : Stopped s p (.stepCollapse time step)
  | refused (x : Sample) (hlast : p.samples.head? = some x)
      (hnot : ¬ x.time < (s.nextClock p).now.seconds) :
      Stopped s p (.notLater x.time (s.nextClock p).now.seconds)

theorem record_eq_error (h : s.record p = .error f) :
    ∃ x, p.samples.head? = some x ∧ ¬ x.time < p.clock.now.seconds ∧
      f = .notLater x.time p.clock.now.seconds := by
  rw [record_eq] at h
  cases hlast : p.samples.head? with
  | none =>
    -- The first sample has none to follow.
    rw [hlast] at h
    cases h
  | some x =>
    rw [hlast, Series.follows] at h
    by_cases hlater : (s.sampleNow p).time > x.time
    · rw [if_pos hlater] at h
      cases h
    · rw [if_neg hlater] at h
      exact ⟨x, rfl, hlater, (Except.error.inj h).symm⟩

theorem reject_eq_error {taken : Nat} (h : reject p taken = .error f) :
    ∃ time step, f = .stepCollapse time step := by
  unfold reject Clock.reject at h
  dsimp only at h
  split at h
  · exact ⟨_, _, (Except.error.inj h).symm⟩
  · cases h

theorem attempt_eq_error (h : s.attempt p = .error f) : s.Stopped p f := by
  unfold attempt at h
  dsimp only at h
  split at h
  · unfold accept at h
    dsimp only at h
    split at h
    · obtain ⟨x, hlast, hnot, rfl⟩ := record_eq_error h
      exact .refused x hlast hnot
    · cases h
  · obtain ⟨time, step, rfl⟩ := reject_eq_error h
    exact .collapsed time step

/-! ## §2 The last sample -/

/-- The last sample has been taken by now. -/
def Dated (p : Progress) : Prop :=
  ∃ x t, p.samples.head? = some x ∧ x.time = Instant.seconds t ∧ t.nanos ≤ p.clock.now.nanos

theorem dated_sampled : Dated (s.sampled p) :=
  ⟨s.sampleNow p, p.clock.now, rfl, rfl, Nat.le_refl _⟩

theorem Dated.attempted (h : Dated p) (hover : ¬ s.isOver p = true)
    (hattempted : s.Attempted p p') : Dated p' := by
  obtain ⟨x, t, hlast, htime, hle⟩ := h
  cases hattempted with
  | rejected _ hclock =>
    refine ⟨x, t, hlast, htime, ?_⟩
    show _ ≤ _
    rw [Clock.now_reject hclock]
    exact hle
  | passed =>
    refine ⟨x, t, hlast, htime, ?_⟩
    show t.nanos ≤ (s.nextClock p).now.nanos
    rw [now_nextClock hover]
    omega
  | recorded => exact dated_sampled

/-! ## §3 Instants that have the same seconds -/

/-- Two instants of a run, one after the other, that have the same seconds. -/
structure Coincide (settings : SimulationSettings) (t u : Instant) : Prop where
  earlier : t.nanos < u.nanos
  within : u.nanos ≤ (Instant.ofSeconds settings.duration).nanos
  late : 8388608 * 10 ^ 9 < u.nanos
  seconds_eq : t.seconds = u.seconds

theorem coincide_of_not_lt {t u : Instant} (hearlier : t.nanos < u.nanos)
    (hwithin : u.nanos ≤ s.finish.nanos) (hnot : ¬ t.seconds < u.seconds) :
    Coincide s.settings t u where
  earlier := hearlier
  within := hwithin
  late := Nat.lt_of_not_le fun hearly => hnot (Instant.secondsOf_lt hearlier hearly)
  seconds_eq :=
    Instant.secondsOf_eq_of_not_lt hearlier (hwithin.trans finish_le_countLimit) hnot

/-- A sample is refused only if its instant has the same seconds as an earlier one. -/
theorem Stopped.ending (h : s.Stopped p f) (hontime : s.OnTime p) (hover : ¬ s.isOver p = true)
    (hdated : Dated p) :
    GivenUp s.settings cancelAfter f ∨
      ∃ t u, f = .notLater t.seconds u.seconds ∧ Coincide s.settings t u := by
  cases h with
  | collapsed time step => exact .inl (.stepCollapse time step)
  | refused x hlast hnot =>
    obtain ⟨y, t, hlast', htime, hle⟩ := hdated
    obtain rfl : x = y := Option.some.inj (hlast.symm.trans hlast')
    have hless := now_lt_finish hover
    -- The step takes a nanosecond at least, so the instant is new whatever its seconds are.
    obtain ⟨hpos, hgap⟩ := taken_bounds hover hontime.ticking
    have hnow : (s.nextClock p).now.nanos = p.clock.now.nanos + s.taken p := now_nextClock hover
    rw [htime] at hnot ⊢
    exact .inr ⟨t, _, rfl, coincide_of_not_lt (by omega) (by omega) hnot⟩

theorem Stepping.ending {attempts : List Progress} {outcome : Except Failure Progress}
    (h : s.Stepping cancelAfter s.next p attempts outcome) (hontime : s.OnTime p)
    (hdated : Dated p) :
    (∃ last, outcome = .ok last) ∨
      ∃ f, outcome = .error f ∧ (GivenUp s.settings cancelAfter f ∨
        ∃ t u, f = .notLater t.seconds u.seconds ∧ Coincide s.settings t u) := by
  -- Induction on the attempts; each of them starts on time and after the last sample.
  induction h with
  | ended => exact .inl ⟨_, rfl⟩
  | cancelled _ hcancelled =>
    refine .inr ⟨_, rfl, .inl (.cancelled _ ?_)⟩
    cases cancelAfter with
    | none => cases hcancelled
    | some _ => rfl
  | spent => exact .inr ⟨_, rfl, .inl .iterationCap⟩
  | stopped hgo hattempt =>
    exact .inr ⟨_, rfl, (attempt_eq_error hattempt).ending hontime hgo.1 hdated⟩
  | attempted hgo hattempt _ ih =>
    have hattempted := Simulation.attempted hattempt
    exact ih (hontime.attempted hgo.1 hattempted) (hdated.attempted hgo.1 hattempted)

/-! ## §4 Whole runs -/

/-- A run of up to 8388608 seconds has no instants with the same seconds. -/
theorem not_coincide {t u : Instant} (hcheck : settings.check = .ok ())
    (hshort : settings.duration ≤ 8388608.0) : ¬ Coincide settings t u := by
  intro hcoincide
  have hranges := (SimulationSettings.check_eq_ok_iff.1 hcheck).1
  -- The ends of the range as they are stored.
  have hbillionth := isExact_of_magnitude (u := 1e-9) (d := ⟨4835703278458517, -82⟩)
    (by decide) (by decide) (by decide)
  have hpos : 0 < Number.Dyadic.toRat ⟨4835703278458517, -82⟩ := by
    norm_num [Number.Dyadic.toRat]
  have hlimit := isExact_of_magnitude (u := 8388608.0) (d := ⟨2 ^ 52, -29⟩)
    (by decide) (by decide) (by decide)
  have hlimitvalue : Number.Dyadic.toRat ⟨2 ^ 52, -29⟩ = 8388608 := by
    norm_num [Number.Dyadic.toRat]
  rw [hlimitvalue] at hlimit
  obtain ⟨hnan, hnotabove⟩ := not_lt_of_le hshort
  obtain ⟨hexact, hge, hle⟩ :=
    exact_of_range hbillionth hpos hlimit (by norm_num) hnan hranges.duration hnotabove
  have hcount : (Instant.ofSeconds settings.duration).nanos ≤ 8388608 * 10 ^ 9 := by
    have hsize : absolute settings.duration * 10 ^ 9 ≤ (8388608 * 10 ^ 9 : Nat) := by
      push_cast
      linarith
    exact Instant.nanos_ofSeconds_le hexact (hpos.trans_le hge) hsize (by norm_num)
  exact absurd (hcoincide.within.trans hcount) (Nat.not_le_of_lt hcoincide.late)

/-- A later instant has more seconds up to 8388608 seconds.  A run gives a result or is given up,
unless it steps to an instant beyond that has the same seconds as an earlier one; a run that is no
longer always does. -/
theorem run_outcome {m : Model} (hprepare : prepare m settings = .ok s)
    (cancelAfter : Option Nat) :
    (∀ t u : Instant, t.nanos < u.nanos → u.nanos ≤ 8388608 * 10 ^ 9 → t.seconds < u.seconds) ∧
    ((∃ result, s.run cancelAfter = .ok result) ∨
      (∃ f, s.run cancelAfter = .error f ∧ GivenUp settings cancelAfter f) ∨
      ∃ t u, s.run cancelAfter = .error (.notLater t.seconds u.seconds) ∧
        Coincide settings t u) ∧
    (settings.duration ≤ 8388608.0 →
      (∃ result, s.run cancelAfter = .ok result) ∨
        ∃ f, s.run cancelAfter = .error f ∧ GivenUp settings cancelAfter f) := by
  obtain ⟨hcheck, hs⟩ := prepare_eq_ok hprepare
  have hsettings : s.settings = settings := by rw [hs]
  obtain ⟨attempts, outcome, hstepping⟩ := exists_stepping s cancelAfter s.next s.begun
  have hrun := hstepping.run_eq
  have hending := hstepping.ending onTime_begun dated_sampled
  rw [hsettings] at hending
  refine ⟨fun t u hearlier hearly => Instant.secondsOf_lt hearlier hearly, ?_, fun hshort => ?_⟩
  · obtain ⟨last, rfl⟩ | ⟨f, rfl, hgiven | ⟨t, u, rfl, hcoincide⟩⟩ := hending
    · exact .inl ⟨_, hrun⟩
    · exact .inr (.inl ⟨f, hrun, hgiven⟩)
    · exact .inr (.inr ⟨t, u, hrun, hcoincide⟩)
  · obtain ⟨last, rfl⟩ | ⟨f, rfl, hgiven | ⟨t, u, -, hcoincide⟩⟩ := hending
    · exact .inl ⟨_, hrun⟩
    · exact .inr ⟨f, hrun, hgiven⟩
    · exact absurd hcoincide (not_coincide hcheck hshort)

/-- A body at rest. -/
def restingBody : Model where
  entities := [{ id := "stone" }]

/-- Some months, with a step that grows until it comes a nanosecond short of the end. -/
def longSettings : SimulationSettings where
  duration := 10111110.000000007
  timeStep := 10.0
  maxTimeStep := 9000000.000000007
  growthFactor := 10.0
  outputStride := 1

/-- The simulation of the body at rest. -/
def longSimulation : Simulation where
  settings := longSettings
  rule := .ofModel restingBody
  bodies := restingBody.entities.map (Body.ofEntity restingBody)

theorem prepare_restingBody : prepare restingBody longSettings = .ok longSimulation :=
  prepare_eq_of_check rfl

theorem run_longSimulation :
    longSimulation.run none = .error (.notLater 10111110.000000007 10111110.000000007) := by
  decide +kernel

/-- The run of the body at rest gives no result, and is not given up either. -/
theorem run_restingBody_refused :
    prepare restingBody longSettings = .ok longSimulation ∧
      (¬ ∃ result, longSimulation.run none = .ok result) ∧
      longSimulation.run none = .error (.notLater 10111110.000000007 10111110.000000007) ∧
      ¬ ∃ f, longSimulation.run none = .error f ∧ GivenUp longSettings none f := by
  refine ⟨prepare_restingBody, ?_, run_longSimulation, ?_⟩
  · rintro ⟨result, hresult⟩
    rw [run_longSimulation] at hresult
    cases hresult
  · rintro ⟨f, hf, hgiven⟩
    rw [run_longSimulation] at hf
    obtain rfl := Except.error.inj hf
    cases hgiven

/-- It steps to an instant with the seconds of the last sample.  The fast spring, which takes a
second and a half, is given up if it is cancelled after its first step. -/
theorem run_restingBody_coincide :
    (∃ t u, longSimulation.run none = .error (.notLater t.seconds u.seconds) ∧
      Coincide longSettings t u) ∧
    ∃ f, (fastSimulation 2).run (some 1) = .error f ∧
      GivenUp { fastSettings with outputStride := 2 } (some 1) f := by
  constructor
  · obtain ⟨-, ⟨result, hresult⟩ | ⟨f, hf, hgiven⟩ | hrefused, -⟩ :=
      run_outcome prepare_restingBody none
    · rw [run_longSimulation] at hresult
      cases hresult
    · rw [run_longSimulation] at hf
      obtain rfl := Except.error.inj hf
      cases hgiven
    · exact hrefused
  · have hprepare : prepare fastSpring { fastSettings with outputStride := 2 } =
        .ok (fastSimulation 2) := prepare_eq_of_check rfl
    have hshort : fastSettings.duration ≤ 8388608.0 := by decide
    have hnone : ((fastSimulation 2).run (some 1)).toOption = none := by decide +kernel
    obtain ⟨result, hresult⟩ | hgiven := (run_outcome hprepare (some 1)).2.2 hshort
    · rw [hresult] at hnone
      cases hnone
    · exact hgiven

end Simulation

end PhysicsLab
