import Mathlib.Data.Nat.Log
import PhysicsLab.Proofs.Simulation.Budget
import PhysicsLab.Proofs.Simulation.Stepping

/-!
# Attempts that are made again

A rejected attempt halves the nominal step.  What is attempted is the nominal step or the time that
is left, whichever is less, so the next attempt need not be smaller: while the halved step still
covers the time left, the same attempt is made once more, and since nothing that it looks at has
changed, it fails once more.  That happens as often as the time left goes into the step by halving,
which is a binary logarithm.

## Main definitions

* `Clock.rejectTimes` — a clock after some rejected attempts in a row
* `Simulation.Retried` — a rejected attempt and the one that is made after it

## Main statements

* `Clock.nextStep_rejectTimes`, `Clock.log_lt_iff_min_lt`
* `Simulation.Stepping.isChain_retried` — what a run tries after each of its rejected attempts
* `Simulation.retry_lt_iff`, `Simulation.retry_same_size`
-/

namespace PhysicsLab

/-! ## §1 Rejected attempts in a row -/

namespace Clock

variable {c c' : Clock} {settings : SimulationSettings} {finish : Instant} {n : Nat}

/-- The clock after a number of rejected attempts in a row. -/
def rejectTimes : Nat → Clock → Except Failure Clock
  | 0, c => .ok c
  | n + 1, c => c.reject.bind (rejectTimes n)

theorem rejectTimes_succ_eq_ok (h : rejectTimes (n + 1) c = .ok c') :
    ∃ next, c.reject = .ok next ∧ rejectTimes n next = .ok c' := by
  unfold rejectTimes at h
  cases hreject : c.reject with
  | error f => simp [hreject, Except.bind] at h
  | ok next =>
    rw [hreject] at h
    exact ⟨next, rfl, h⟩

/-- Every rejected attempt halves the nominal step and leaves the time as it is. -/
theorem step_rejectTimes (h : rejectTimes n c = .ok c') :
    c'.step = c.step / 2 ^ n ∧ c'.now = c.now := by
  induction n generalizing c with
  | zero =>
    rw [Except.ok.inj h, pow_zero, Nat.div_one]
    exact ⟨rfl, rfl⟩
  | succ n ih =>
    obtain ⟨next, hreject, hrest⟩ := rejectTimes_succ_eq_ok h
    obtain ⟨-, rfl⟩ := reject_eq_ok_iff.1 hreject
    obtain ⟨hstep, hnow⟩ := ih hrest
    refine ⟨?_, hnow⟩
    rw [hstep, Nat.div_div_eq_div_mul, ← Nat.pow_succ']

theorem nextStep_rejectTimes (h : rejectTimes n c = .ok c') :
    c'.nextStep finish = min (c.step / 2 ^ n) (c.now.gapTo finish) := by
  obtain ⟨hstep, hnow⟩ := step_rejectTimes h
  rw [nextStep, hstep, hnow]

/-- Halving a step makes its part within a gap smaller once the gap no longer fits into it. -/
theorem log_lt_iff_min_lt {step gap : Nat} (hstep : 0 < step) (hgap : 0 < gap) :
    min (step / 2 ^ n) gap < min step gap ↔ Nat.log 2 (step / gap) < n := by
  rw [← not_iff_not, not_lt, not_lt]
  obtain hle | hlt := le_or_gt gap step
  · -- The gap is what is attempted, and it fits as long as its double, fourfold and so on do.
    have hfits : step / gap ≠ 0 := (Nat.div_pos hle hgap).ne'
    rw [min_eq_right hle, le_min_iff, and_iff_left le_rfl, Nat.le_div_iff_mul_le (by positivity),
      Nat.le_log_iff_pow_le one_lt_two hfits, Nat.le_div_iff_mul_le hgap, mul_comm]
  · -- The whole step is attempted, so that any halving shows.
    rw [Nat.div_eq_of_lt hlt, Nat.log_zero_right, Nat.le_zero, min_eq_left hlt.le, le_min_iff,
      and_iff_left hlt.le]
    constructor
    · intro hkept
      by_contra hn
      exact absurd (Nat.div_lt_self hstep (Nat.one_lt_two_pow hn)) (not_lt.2 hkept)
    · rintro rfl
      rw [pow_zero, Nat.div_one]

theorem Reaches.ticking (h : Reaches (ofSettings settings) c) : c.Ticking := by
  induction h with
  | refl => exact ticking_ofSettings settings
  | accept taken error _ ih => exact ih.accept
  | reject _ hreject ih => exact ih.reject hreject

end Clock

/-! ## §2 Rejected attempts of a run -/

namespace Simulation

variable {s : Simulation} {p p' : Progress} {cancelAfter : Option Nat} {attempts : List Progress}
  {outcome : Except Failure Progress}

/-- What is attempted after a rejected attempt. -/
structure Retried (s : Simulation) (p p' : Progress) : Prop where
  clock : p.clock.reject = .ok p'.clock
  /-- The attempt is smaller exactly if the halved step does not cover the time left. -/
  lt_iff : s.taken p' < s.taken p ↔ p.clock.step / 2 < p.clock.now.gapTo s.finish
  /-- If it is not smaller, it is the same attempt, with the same result. -/
  again : ¬ s.taken p' < s.taken p → s.taken p' = s.taken p ∧ s.next p' = s.next p

theorem attempt_rejected (hbad : (s.next p).all Body.isFinite = false)
    (h : s.attempt p = .ok p') : p' = s.halved p ∧ p.clock.floor ≤ p.clock.step / 2 := by
  have hbad' : ¬ (s.next p).all Body.isFinite = true := Bool.eq_false_iff.1 hbad
  have hreject : reject p (s.taken p) = .ok p' := by
    rw [← h]
    exact (if_neg hbad').symm
  exact reject_eq_halved hreject

theorem retried_halved (hp : s.OnTime p) (hover : ¬ s.isOver p = true)
    (hfloor : p.clock.floor ≤ p.clock.step / 2) : s.Retried p (s.halved p) := by
  have hstep := hp.ticking.step_pos
  have hgap : 0 < p.clock.now.gapTo s.finish := Nat.sub_pos_of_lt (now_lt_finish hover)
  have htaken : s.taken p = min p.clock.step (p.clock.now.gapTo s.finish) := rfl
  have hretry : s.taken (s.halved p) = min (p.clock.step / 2) (p.clock.now.gapTo s.finish) := rfl
  have hlt : s.taken (s.halved p) < s.taken p ↔
      p.clock.step / 2 < p.clock.now.gapTo s.finish := by omega
  refine ⟨Clock.reject_eq_ok_iff.2 ⟨hfloor, rfl⟩, hlt, fun hnot => ?_⟩
  have hsame : s.taken (s.halved p) = s.taken p := by omega
  refine ⟨hsame, ?_⟩
  -- The rule sees the same bodies at the same time, and now a step of the same size.
  rw [next, hsame]
  rfl

theorem Stepping.head?_eq (h : s.Stepping cancelAfter s.next p attempts outcome) :
    ∀ q ∈ attempts.head?, q = p := by
  cases h <;> simp

/-- After each of its rejected attempts, a loop makes a smaller one or the same once more. -/
theorem Stepping.isChain_retried (h : s.Stepping cancelAfter s.next p attempts outcome)
    (hp : s.OnTime p) :
    attempts.IsChain fun p p' => (s.next p).all Body.isFinite = false → s.Retried p p' := by
  induction h with
  | ended => exact .nil
  | cancelled => exact .nil
  | spent => exact .nil
  | stopped => exact .singleton _
  | attempted hgo hattempt hrest ih =>
    have hattempt' : s.attempt _ = .ok _ := hattempt
    refine List.isChain_cons.2 ⟨fun q hq hbad => ?_,
      ih (hp.attempted hgo.1 (Simulation.attempted hattempt'))⟩
    rw [hrest.head?_eq q hq]
    obtain ⟨rfl, hfloor⟩ := attempt_rejected hbad hattempt'
    exact retried_halved hp hgo.1 hfloor

/-! ## §3 When an attempt gets smaller -/

/-- After some rejected attempts in a row the next attempt is not larger, and it is smaller exactly
if the rejections outnumber the halvings after which the step still covers the time left.  In every
run an attempt that is rejected is followed by a smaller one, or else by the same, which is rejected
as well. -/
theorem retry_lt_iff {settings : SimulationSettings} {c c' : Clock} {finish : Instant} {n : Nat}
    (hreaches : (Clock.ofSettings settings).Reaches c) (hend : c.now.nanos < finish.nanos)
    (hreject : c.rejectTimes n = .ok c') :
    c'.nextStep finish ≤ c.nextStep finish ∧
    (c'.nextStep finish < c.nextStep finish ↔ Nat.log 2 (c.step / c.now.gapTo finish) < n) ∧
    ∀ (s : Simulation) (cancelAfter : Option Nat) (attempts : List Progress)
      (outcome : Except Failure Progress),
      s.Stepping cancelAfter s.next s.begun attempts outcome →
        attempts.IsChain fun p p' => (s.next p).all Body.isFinite = false → s.Retried p p' := by
  have hstep := hreaches.ticking.step_pos
  have hgap : 0 < c.now.gapTo finish := Nat.sub_pos_of_lt hend
  rw [Clock.nextStep_rejectTimes hreject, Clock.nextStep]
  refine ⟨?_, Clock.log_lt_iff_min_lt hstep hgap, fun s _ _ _ h => h.isChain_retried onTime_begun⟩
  exact min_le_min_right _ (Nat.div_le_self _ _)

/-- A spring with a body near the limits of the numbers. -/
def farSpring : Model where
  entities := [
    { id := "bob", position := ⟨-9.7e306, 0.0, 0.0⟩, velocity := ⟨-1.04e307, 0.0, 0.0⟩,
      mass := 10.0 }]
  modules := [{ id := "spring", name := "Spring", domain := .oscillation }]

/-- One full step and a part of one lead to the end. -/
def farSettings : SimulationSettings where
  duration := 5.6
  timeStep := 4.0
  maxTimeStep := 4.0
  adaptive := false
  minSuccessRatio := 0.5

/-- The simulation of the far spring. -/
def farSimulation : Simulation :=
  ⟨farSettings, .ofModel farSpring, farSpring.entities.map (Body.ofEntity farSpring)⟩

/-- The clock of the far spring after its first step. -/
def farClock : Clock := (Clock.ofSettings farSettings).accept 4000000000 0.0

theorem reaches_farClock : (Clock.ofSettings farSettings).Reaches farClock := .accept _ _ .refl

/-- After two rejections the last, cut step gets smaller, and the run comes to its end. -/
theorem retry_lt_iff_farSpring :
    (∃ c', farClock.rejectTimes 2 = .ok c' ∧
      Nat.log 2 (farClock.step / farClock.now.gapTo farSimulation.finish) < 2 ∧
      c'.nextStep farSimulation.finish < farClock.nextStep farSimulation.finish) ∧
    ∃ attempts last, farSimulation.Stepping none farSimulation.next farSimulation.begun attempts
        (.ok last) ∧
      (farSimulation.retriesIn attempts).length = 2 ∧
      attempts.IsChain fun p p' =>
        (farSimulation.next p).all Body.isFinite = false → farSimulation.Retried p p' := by
  have hend : farClock.now.nanos < farSimulation.finish.nanos := by decide
  have hlog : Nat.log 2 (farClock.step / farClock.now.gapTo farSimulation.finish) < 2 := by
    rw [show farClock.step / farClock.now.gapTo farSimulation.finish = 2 by decide]
    decide
  have hreject : farClock.rejectTimes 2 =
      .ok { farClock with step := 1000000000, failed := 2 } := by decide
  obtain ⟨-, hlt, hruns⟩ := retry_lt_iff reaches_farClock hend hreject
  refine ⟨⟨_, hreject, hlog, hlt.2 hlog⟩, ?_⟩
  have hfailed : ((farSimulation.run none).toOption.map fun r => r.statistics.failedSteps) =
      some 2 := by decide +kernel
  obtain ⟨result, hrun, hfailed⟩ := exists_of_toOption_map hfailed
  obtain ⟨attempts, outcome, hstepping⟩ :=
    exists_stepping farSimulation none farSimulation.next farSimulation.begun
  rw [hstepping.run_eq] at hrun
  cases outcome with
  | error f => cases hrun
  | ok last =>
    obtain rfl := Except.ok.inj hrun
    have htwo : last.clock.failed = 2 := hfailed
    have hcount : last.clock.failed = 0 + (farSimulation.retriesIn attempts).length :=
      hstepping.ledger.failed
    have hretries : (farSimulation.retriesIn attempts).length = 2 := by omega
    exact ⟨attempts, last, hstepping, hretries, hruns _ _ _ _ hstepping⟩

/-- The last step of 1.6 seconds is rejected, and then attempted with the same size again. -/
theorem retry_same_size :
    (∃ c', (Clock.ofSettings farSettings).Reaches farClock ∧
      farClock.now.nanos < farSimulation.finish.nanos ∧ farClock.reject = .ok c' ∧
      farClock.nextStep farSimulation.finish = 1600000000 ∧
      c'.nextStep farSimulation.finish = 1600000000) ∧
    (farSimulation.run none).toOption.map Run.messages = some [
      "non-finite state at t=4.000000s with step 1.600e0s, retrying at 2.000e0s",
      "non-finite state at t=4.000000s with step 1.600e0s, retrying at 1.000e0s"] := by
  refine ⟨⟨{ farClock with step := 2000000000, failed := 1 }, reaches_farClock, ?_⟩, ?_⟩ <;>
    decide +kernel

end Simulation

end PhysicsLab
