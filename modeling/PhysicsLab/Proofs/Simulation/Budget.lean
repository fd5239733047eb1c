import Mathlib.Algebra.Order.Floor.Div
import PhysicsLab.Proofs.Simulation.Trajectory

/-!
# Runs stay within their budget

A run has a number of attempts to spend and a stretch of time to cover.  Every attempt that is not
given up uses one of the former, so the stepping ends whatever the rule computes.  Every step that
is taken uses some of the latter and never more than is left, so the steps of a run that reaches its
end add up to the duration, to the nanosecond.

The loop is stated twice: as the function that is run, which counts down the attempts left, and as
the relation `Stepping`, which only looks at the counters of the clock.

## Main definitions

* `Simulation.attemptWith` — an attempt in which anything may stand in for the rule
* `Simulation.Stepping` — the stepping loop with the attempts that it makes
* `Simulation.stepsIn`, `Simulation.retriesIn` — the attempts that succeed, and those that do not

## Main statements

* `Simulation.exists_stepping`, `Simulation.Stepping.length_le` — the loop ends, and how soon
* `Simulation.Stepping.ledger` — what some attempts add to clock, log and messages
* `Simulation.run_within_budget`
-/

namespace PhysicsLab

open PhysicsLab.Number

/-! ## §1 Clocks -/

namespace Clock

variable {c c' : Clock}

theorem attempts_accept {taken : Nat} {error : Float} :
    (c.accept taken error).attempts = c.attempts + 1 := by
  show c.accepted + 1 + c.failed = c.accepted + c.failed + 1
  omega

theorem attempts_reject (h : c.reject = .ok c') : c'.attempts = c.attempts + 1 := by
  obtain ⟨-, rfl⟩ := reject_eq_ok_iff.1 h
  show c.accepted + (c.failed + 1) = c.accepted + c.failed + 1
  omega

/-- The steps of a clock do not vanish. -/
structure Ticking (c : Clock) : Prop where
  floor_pos : 0 < c.floor
  step_pos : 0 < c.step

theorem scaleStep_pos {step : Nat} {factor : Float} : 0 < scaleStep step factor :=
  Nat.lt_of_lt_of_le Nat.one_pos (Nat.le_max_left _ _)

theorem ticking_ofSettings (settings : SimulationSettings) : (ofSettings settings).Ticking := by
  have hstep (seconds : Float) : 0 < stepOf seconds :=
    Nat.lt_of_lt_of_le Nat.one_pos (Nat.le_max_left _ _)
  have hfloor : 0 < floorOf settings := by
    unfold floorOf
    split
    · exact hstep _
    · exact Nat.lt_min.2 ⟨hstep _, hstep _⟩
  exact ⟨hfloor, Nat.lt_of_lt_of_le hfloor (Nat.le_max_left _ _)⟩

theorem Ticking.accept {taken : Nat} {error : Float} (h : c.Ticking) :
    (c.accept taken error).Ticking := by
  refine ⟨h.floor_pos, ?_⟩
  show 0 < (c.adapt error).1
  unfold adapt
  split
  · exact h.step_pos
  · split
    · exact Nat.lt_of_lt_of_le h.floor_pos (Nat.le_max_right _ _)
    · split
      · next hgrow =>
        -- The step grows towards a ceiling above it.
        have hceiling : c.step < c.ceiling := by simp at hgrow; exact hgrow.2
        exact Nat.lt_min.2 ⟨scaleStep_pos, Nat.lt_of_le_of_lt (Nat.zero_le _) hceiling⟩
      · exact h.step_pos

theorem Ticking.reject (h : c.Ticking) (hreject : c.reject = .ok c') : c'.Ticking := by
  obtain ⟨hfloor, rfl⟩ := reject_eq_ok_iff.1 hreject
  exact ⟨h.floor_pos, Nat.lt_of_lt_of_le h.floor_pos hfloor⟩

end Clock

namespace Simulation

variable {s : Simulation} {p p' last : Progress} {cancelAfter : Option Nat}
  {compute : Progress → List Body} {attempts : List Progress} {outcome : Except Failure Progress}

/-! ## §2 The loop ends -/

/-- An attempt in which `compute` stands in for the rule. -/
def attemptWith (s : Simulation) (compute : Progress → List Body) (p : Progress) :
    Except Failure Progress :=
  if (compute p).all Body.isFinite then s.accept p (s.taken p) (compute p)
  else reject p (s.taken p)

theorem attemptWith_next : s.attemptWith s.next = s.attempt := rfl

theorem attempts_attemptWith (h : s.attemptWith compute p = .ok p') :
    p'.clock.attempts = p.clock.attempts + 1 := by
  unfold attemptWith at h
  split at h
  · unfold accept at h
    dsimp only at h
    split at h
    · rw [record_eq_ok h]
      exact Clock.attempts_accept
    · rw [← Except.ok.inj h]
      exact Clock.attempts_accept
  · obtain ⟨clock, _, hclock, rfl⟩ := reject_eq_ok h
    exact Clock.attempts_reject hclock

/-- Whether the loop goes on: the end is not reached, nobody has cancelled, and the clock has not
seen all the attempts that are allowed. -/
def GoesOn (s : Simulation) (cancelAfter : Option Nat) (p : Progress) : Prop :=
  ¬ s.isOver p = true ∧ ¬ isCancelled cancelAfter p = true ∧
    p.clock.attempts < s.settings.maxIterations

/-- The stepping loop from a progress on, with `compute` in place of the rule: the progress before
each attempt that is made, and what the loop ends with. -/
inductive Stepping (s : Simulation) (cancelAfter : Option Nat) (compute : Progress → List Body) :
    Progress → List Progress → Except Failure Progress → Prop
  | ended {p : Progress} (hover : s.isOver p = true) : Stepping s cancelAfter compute p [] (.ok p)
  | cancelled {p : Progress} (hover : ¬ s.isOver p = true)
      (hcancelled : isCancelled cancelAfter p = true) :
      Stepping s cancelAfter compute p [] (.error (.cancelled p.clock.now.seconds))
  | spent {p : Progress} (hover : ¬ s.isOver p = true)
      (hcancelled : ¬ isCancelled cancelAfter p = true)
      (hspent : s.settings.maxIterations ≤ p.clock.attempts) :
      Stepping s cancelAfter compute p [] (.error (.iterationCap s.settings.maxIterations))
  | stopped {p : Progress} {f : Failure} (hgo : s.GoesOn cancelAfter p)
      (hattempt : s.attemptWith compute p = .error f) :
      Stepping s cancelAfter compute p [p] (.error f)
  | attempted {p p' : Progress} {rest : List Progress} {outcome : Except Failure Progress}
      (hgo : s.GoesOn cancelAfter p) (hattempt : s.attemptWith compute p = .ok p')
      (hrest : Stepping s cancelAfter compute p' rest outcome) :
      Stepping s cancelAfter compute p (p :: rest) outcome

/-- The loop ends, whatever is computed. -/
theorem exists_stepping (s : Simulation) (cancelAfter : Option Nat)
    (compute : Progress → List Body) (p : Progress) :
    ∃ attempts outcome, s.Stepping cancelAfter compute p attempts outcome := by
  -- Induction on the attempts that are left.
  generalize hleft : s.settings.maxIterations - p.clock.attempts = left
  induction left generalizing p with
  | zero =>
    by_cases hover : s.isOver p = true
    · exact ⟨[], _, .ended hover⟩
    · by_cases hcancelled : isCancelled cancelAfter p = true
      · exact ⟨[], _, .cancelled hover hcancelled⟩
      · exact ⟨[], _, .spent hover hcancelled (by omega)⟩
  | succ left ih =>
    by_cases hover : s.isOver p = true
    · exact ⟨[], _, .ended hover⟩
    · by_cases hcancelled : isCancelled cancelAfter p = true
      · exact ⟨[], _, .cancelled hover hcancelled⟩
      · have hgo : s.GoesOn cancelAfter p := ⟨hover, hcancelled, by omega⟩
        cases hattempt : s.attemptWith compute p with
        | error f => exact ⟨[p], _, .stopped hgo hattempt⟩
        | ok p' =>
          have hcount := attempts_attemptWith hattempt
          obtain ⟨rest, outcome, hrest⟩ := ih p' (by omega)
          exact ⟨p :: rest, outcome, .attempted hgo hattempt hrest⟩

/-- The loop makes no more attempts than are left. -/
theorem Stepping.length_le (h : s.Stepping cancelAfter compute p attempts outcome) :
    attempts.length ≤ s.settings.maxIterations - p.clock.attempts := by
  induction h with
  | ended => exact Nat.zero_le _
  | cancelled => exact Nat.zero_le _
  | spent => exact Nat.zero_le _
  | stopped hgo =>
    have hless := hgo.2.2
    simp only [List.length_singleton]
    omega
  | attempted hgo hattempt _ ih =>
    have hless := hgo.2.2
    have hcount := attempts_attemptWith hattempt
    rw [List.length_cons]
    omega

/-- The function that is run does what the loop does. -/
theorem Stepping.advance_eq {left : Nat} (h : s.Stepping cancelAfter s.next p attempts outcome)
    (hleft : p.clock.attempts + left = s.settings.maxIterations) :
    s.advance cancelAfter left p = outcome := by
  induction h generalizing left with
  | ended hover => cases left <;> simp [advance, hover]
  | cancelled hover hcancelled => cases left <;> simp [advance, hover, hcancelled]
  | spent hover hcancelled hspent =>
    obtain rfl : left = 0 := by omega
    simp [advance, hover, hcancelled]
  | stopped hgo hattempt =>
    obtain ⟨hover, hcancelled, hless⟩ := hgo
    obtain ⟨rest, rfl⟩ : ∃ rest, left = rest + 1 := ⟨left - 1, by omega⟩
    rw [attemptWith_next] at hattempt
    simp [advance, hover, hcancelled, hattempt]
  | attempted hgo hattempt _ ih =>
    obtain ⟨hover, hcancelled, hless⟩ := hgo
    obtain ⟨rest, rfl⟩ : ∃ rest, left = rest + 1 := ⟨left - 1, by omega⟩
    have hcount := attempts_attemptWith hattempt
    rw [attemptWith_next] at hattempt
    simp only [advance, hover, hcancelled, hattempt, Bool.false_eq_true, if_false]
    exact ih (by omega)

/-- The run is the loop from the start, with the result of what it ends with. -/
theorem Stepping.run_eq (h : s.Stepping cancelAfter s.next s.begun attempts outcome) :
    s.run cancelAfter = outcome.map s.result := by
  have hadvance : s.advance cancelAfter s.settings.maxIterations s.begun = outcome :=
    h.advance_eq (Nat.zero_add _)
  rw [← hadvance]
  rfl

/-! ## §3 Steps add up -/

theorem finish_le_countLimit : s.finish.nanos ≤ countLimit := by
  unfold finish Instant.ofSeconds
  split
  · unfold toCount
    split
    · exact Nat.zero_le _
    · split
      · exact Nat.min_le_right _ _
      · exact Nat.le_refl _
  · exact Nat.zero_le _

/-- The clock of a progress ticks and is not past the end. -/
structure OnTime (s : Simulation) (p : Progress) : Prop where
  ticking : p.clock.Ticking
  now_le : p.clock.now.nanos ≤ s.finish.nanos

theorem onTime_begun : s.OnTime s.begun where
  ticking := Clock.ticking_ofSettings s.settings
  now_le := Nat.zero_le _

theorem now_lt_finish (hover : ¬ s.isOver p = true) :
    p.clock.now.nanos < s.finish.nanos := by
  simpa [isOver] using hover

/-- A step that is attempted before the end is at least a nanosecond long and does not lead past
the end. -/
theorem taken_bounds (hover : ¬ s.isOver p = true) (h : p.clock.Ticking) :
    1 ≤ s.taken p ∧ s.taken p ≤ s.finish.nanos - p.clock.now.nanos := by
  have hless := now_lt_finish hover
  have hgap : 0 < p.clock.now.gapTo s.finish := Nat.sub_pos_of_lt hless
  exact ⟨Nat.lt_min.2 ⟨h.step_pos, hgap⟩, Nat.min_le_right _ _⟩

/-- The time after a step is exact: it stays below the end, so it does not overflow. -/
theorem now_nextClock (hover : ¬ s.isOver p = true) :
    (s.nextClock p).now.nanos = p.clock.now.nanos + s.taken p := by
  have hless := now_lt_finish hover
  have hgap : s.taken p ≤ s.finish.nanos - p.clock.now.nanos := Nat.min_le_right _ _
  have hlimit : s.finish.nanos ≤ countLimit := finish_le_countLimit
  show min (p.clock.now.nanos + s.taken p) countLimit = p.clock.now.nanos + s.taken p
  omega

theorem OnTime.attempted (h : s.OnTime p) (hover : ¬ s.isOver p = true)
    (hattempted : s.Attempted p p') : s.OnTime p' := by
  have hnext : s.OnTime (s.moved p) := by
    have hless := now_lt_finish hover
    have hgap := (taken_bounds hover h.ticking).2
    refine ⟨h.ticking.accept, ?_⟩
    show (s.nextClock p).now.nanos ≤ s.finish.nanos
    rw [now_nextClock hover]
    omega
  cases hattempted with
  | rejected _ hclock =>
    refine ⟨h.ticking.reject hclock, ?_⟩
    show _ ≤ _
    rw [Clock.now_reject hclock]
    exact h.now_le
  | passed => exact hnext
  | recorded => exact ⟨hnext.ticking, hnext.now_le⟩

/-- Every attempt of a loop is made on time and before the end. -/
theorem Stepping.onTime (h : s.Stepping cancelAfter s.next p attempts outcome) (hp : s.OnTime p) :
    ∀ q ∈ attempts, s.OnTime q ∧ ¬ s.isOver q = true := by
  induction h with
  | ended => exact fun _ hq => absurd hq List.not_mem_nil
  | cancelled => exact fun _ hq => absurd hq List.not_mem_nil
  | spent => exact fun _ hq => absurd hq List.not_mem_nil
  | stopped hgo =>
    intro q hq
    rw [List.mem_singleton.1 hq]
    exact ⟨hp, hgo.1⟩
  | attempted hgo hattempt _ ih =>
    intro q hq
    rcases List.mem_cons.1 hq with rfl | hq
    · exact ⟨hp, hgo.1⟩
    · exact ih (hp.attempted hgo.1 (Simulation.attempted hattempt)) q hq

/-- The attempts that lead to a step. -/
def stepsIn (s : Simulation) (attempts : List Progress) : List Progress :=
  attempts.filter fun p => (s.next p).all Body.isFinite

/-- The attempts that are rejected. -/
def retriesIn (s : Simulation) (attempts : List Progress) : List Progress :=
  attempts.filter fun p => !(s.next p).all Body.isFinite

theorem length_stepsIn_add_length_retriesIn (s : Simulation) (attempts : List Progress) :
    (s.stepsIn attempts).length + (s.retriesIn attempts).length = attempts.length := by
  unfold stepsIn retriesIn
  induction attempts with
  | nil => rfl
  | cons p rest ih =>
    simp only [List.filter_cons]
    cases (s.next p).all Body.isFinite
    · simp only [Bool.false_eq_true, if_false, Bool.not_false, if_true, List.length_cons]
      omega
    · simp only [Bool.false_eq_true, if_false, Bool.not_true, if_true, List.length_cons]
      omega

/-- What some attempts have added to clock, log and messages. -/
structure Ledger (s : Simulation) (p : Progress) (attempts : List Progress) (last : Progress) :
    Prop where
  time : last.clock.now.nanos = p.clock.now.nanos + ((s.stepsIn attempts).map s.taken).sum
  accepted : last.clock.accepted = p.clock.accepted + (s.stepsIn attempts).length
  failed : last.clock.failed = p.clock.failed + (s.retriesIn attempts).length
  log : last.log.reverse = p.log.reverse ++ (s.stepsIn attempts).map fun q => (s.view q).logEntry
  messages : last.messages.reverse = p.messages.reverse ++ (s.retriesIn attempts).map s.retry

theorem ledger_nil : s.Ledger p [] p where
  time := rfl
  accepted := rfl
  failed := rfl
  log := (List.append_nil _).symm
  messages := (List.append_nil _).symm

/-- One more attempt before some others. -/
theorem Ledger.cons (h : s.Ledger p' attempts last) (hover : ¬ s.isOver p = true)
    (hattempt : s.attempt p = .ok p') : s.Ledger p (p :: attempts) last := by
  have hunsampled : p'.unsampled = (s.tried p).unsampled := unsampled_attempt hattempt
  have hclock : p'.clock = (s.tried p).clock := by simpa using congrArg Progress.clock hunsampled
  have hlog : p'.log = (s.tried p).log := by simpa using congrArg Progress.log hunsampled
  have hmessages : p'.messages = (s.tried p).messages := by
    simpa using congrArg Progress.messages hunsampled
  obtain ⟨htime, haccepted, hfailed, hentries, hretries⟩ := h
  rw [hclock] at htime haccepted hfailed
  rw [hlog] at hentries
  rw [hmessages] at hretries
  by_cases hfinite : (s.next p).all Body.isFinite = true
  · have hsteps : s.stepsIn (p :: attempts) = p :: s.stepsIn attempts :=
      List.filter_cons_of_pos hfinite
    have hrest : s.retriesIn (p :: attempts) = s.retriesIn attempts :=
      List.filter_cons_of_neg (by simpa using hfinite)
    have htried : s.tried p = s.moved p := if_pos hfinite
    rw [htried] at htime haccepted hfailed hentries hretries
    have hnow : (s.moved p).clock.now.nanos = p.clock.now.nanos + s.taken p := now_nextClock hover
    have hcount : (s.moved p).clock.accepted = p.clock.accepted + 1 := rfl
    refine ⟨?_, ?_, ?_, ?_, ?_⟩
    · rw [htime, hnow, hsteps, List.map_cons, List.sum_cons]
      omega
    · rw [haccepted, hcount, hsteps, List.length_cons]
      omega
    · rw [hfailed, hrest]
      rfl
    · rw [hentries, hsteps]
      simp [moved]
    · rw [hretries, hrest]
      rfl
  · have hsteps : s.stepsIn (p :: attempts) = s.stepsIn attempts :=
      List.filter_cons_of_neg hfinite
    have hrest : s.retriesIn (p :: attempts) = p :: s.retriesIn attempts :=
      List.filter_cons_of_pos (by simpa using hfinite)
    have htried : s.tried p = s.halved p := if_neg hfinite
    rw [htried] at htime haccepted hfailed hentries hretries
    have hcount : (s.halved p).clock.failed = p.clock.failed + 1 := rfl
    refine ⟨?_, ?_, ?_, ?_, ?_⟩
    · rw [htime, hsteps]
      rfl
    · rw [haccepted, hsteps]
      rfl
    · rw [hfailed, hcount, hrest, List.length_cons]
      omega
    · rw [hentries, hsteps]
      rfl
    · rw [hretries, hrest]
      simp [halved]

theorem Stepping.ledger (h : s.Stepping cancelAfter s.next p attempts (.ok last)) :
    s.Ledger p attempts last := by
  generalize houtcome : Except.ok last = outcome at h
  induction h with
  | ended => exact Except.ok.inj houtcome ▸ ledger_nil
  | cancelled => cases houtcome
  | spent => cases houtcome
  | stopped => cases houtcome
  | attempted hgo hattempt _ ih => exact (ih houtcome).cons hgo.1 hattempt

/-! ## §4 Samples are counted -/

/-- The number of samples by the number of steps: rounded down on the way, and up at the end. -/
structure Paced (s : Simulation) (p : Progress) : Prop where
  length_samples : p.samples.length =
    1 + if s.isOver p then p.log.length ⌈/⌉ s.stride else p.log.length / s.stride
  unrecorded_eq : ¬ s.isOver p = true → p.unrecorded = p.log.length % s.stride

theorem paced_begun : s.Paced s.begun where
  length_samples := by
    have hlog : s.begun.log.length = 0 := rfl
    rw [hlog, Nat.zero_div, zero_ceilDiv, ite_self]
    rfl
  unrecorded_eq := fun _ => (Nat.zero_mod _).symm

theorem succ_ceilDiv {n k : Nat} (hk : 0 < k) : (n + 1) ⌈/⌉ k = n / k + 1 := by
  have hsum : n + 1 + k - 1 = n + k := by omega
  rw [Nat.ceilDiv_eq_add_pred_div, hsum, Nat.add_div_right n hk]

theorem Paced.attempted (h : s.Paced p) (hover : ¬ s.isOver p = true)
    (hattempted : s.Attempted p p') : s.Paced p' := by
  have hlength := h.length_samples
  rw [if_neg hover] at hlength
  have hcount : (s.moved p).unrecorded = p.log.length % s.stride + 1 := by
    show p.unrecorded + 1 = _
    rw [h.unrecorded_eq hover]
  have hlog : (s.moved p).log.length = p.log.length + 1 := rfl
  have hmod := mod_succ_cases (n := p.log.length) s.stride_pos
  cases hattempted with
  | @rejected clock message hclock hbad =>
    -- The time stays, and so does whether the end is reached.
    have hsame : ¬ s.isOver { p with clock, messages := message :: p.messages } = true := by
      unfold isOver
      rw [Clock.now_reject hclock]
      exact hover
    refine ⟨?_, fun _ => h.unrecorded_eq hover⟩
    rw [if_neg hsame]
    exact hlength
  | passed _ hstride hnot =>
    rcases hmod with ⟨hfull, -⟩ | ⟨-, hnext⟩
    · exact absurd (hcount.trans hfull) hstride
    · refine ⟨?_, fun _ => hcount.trans (hlog ▸ hnext.symm)⟩
      have hdiv : (p.log.length + 1) / s.stride = p.log.length / s.stride := by
        rw [Nat.succ_div_of_not_dvd]
        rw [Nat.dvd_iff_mod_eq_zero]
        omega
      rw [if_neg hnot, hlog, hdiv]
      exact hlength
  | recorded _ hdue =>
    have hsamples : (s.sampled (s.moved p)).samples.length = 1 + (p.log.length / s.stride + 1) := by
      show p.samples.length + 1 = _
      omega
    have hover' : s.isOver (s.sampled (s.moved p)) = s.isOver (s.moved p) := rfl
    have hlog' : (s.sampled (s.moved p)).log.length = p.log.length + 1 := rfl
    by_cases hend : s.isOver (s.moved p) = true
    · refine ⟨?_, fun hnot => absurd hend hnot⟩
      rw [hover', if_pos hend, hlog', hsamples, succ_ceilDiv s.stride_pos]
    · have hfull := hdue.resolve_right hend
      rcases hmod with ⟨-, hzero⟩ | ⟨hnot, -⟩
      · refine ⟨?_, fun _ => hlog' ▸ hzero.symm⟩
        rw [hover', if_neg hend, hlog', hsamples,
          Nat.succ_div_of_dvd (Nat.dvd_of_mod_eq_zero hzero)]
      · exact absurd (hcount.symm.trans hfull) hnot

/-! ## §5 Whole runs -/

/-- What the result of a run that reaches its end has to do with the attempts of its loop. -/
structure Settled (s : Simulation) (attempts : List Progress) (result : Run) : Prop where
  /-- No step vanishes, and none overshoots. -/
  taken_bounds : ∀ q ∈ s.stepsIn attempts,
    1 ≤ s.taken q ∧ s.taken q ≤ s.finish.nanos - q.clock.now.nanos
  /-- Time goes on by what is taken. -/
  now_eq : ∀ q ∈ s.stepsIn attempts,
    (s.nextClock q).now.nanos = q.clock.now.nanos + s.taken q
  /-- The steps make up the duration. -/
  sum_taken : ((s.stepsIn attempts).map s.taken).sum = s.finish.nanos
  finalTime_eq : result.statistics.finalTime = s.finish.seconds
  log_eq : result.log = (s.stepsIn attempts).map fun q => (s.view q).logEntry
  acceptedSteps_eq : result.statistics.acceptedSteps = result.log.length
  failedSteps_eq : result.statistics.failedSteps = (s.retriesIn attempts).length
  steps_le : result.statistics.acceptedSteps + result.statistics.failedSteps ≤
    s.settings.maxIterations
  /-- One message about each rejected attempt, and one about the run if too many were. -/
  messages_eq : result.messages = (s.retriesIn attempts).map s.retry ++
    if result.status = .failed then
      [shortfallMessage result.statistics.successRatio s.settings.minSuccessRatio]
    else []
  length_messages : result.messages.length =
    result.statistics.failedSteps + if result.status = .failed then 1 else 0
  length_series : result.series.length =
    1 + result.statistics.acceptedSteps ⌈/⌉ s.settings.outputStride

theorem messages_result : (s.result p).messages = p.messages.reverse ++
    if (s.result p).status = .failed then
      [shortfallMessage (s.result p).statistics.successRatio s.settings.minSuccessRatio]
    else [] := by
  show p.messages.reverse ++ (if p.clock.successRatio ≥ s.settings.minSuccessRatio then [] else
      [shortfallMessage p.clock.successRatio s.settings.minSuccessRatio]) =
    p.messages.reverse ++ if (if p.clock.successRatio ≥ s.settings.minSuccessRatio then
        RunStatus.completed else .failed) = .failed then
      [shortfallMessage p.clock.successRatio s.settings.minSuccessRatio] else []
  split <;> simp

theorem settled (hstride : 1 ≤ s.settings.outputStride)
    (h : s.Stepping cancelAfter s.next s.begun attempts (.ok last)) :
    last.clock.now = s.finish ∧ s.Settled attempts (s.result last) := by
  have hadvance : s.advance cancelAfter s.settings.maxIterations s.begun = .ok last :=
    h.advance_eq (Nat.zero_add _)
  obtain ⟨⟨hontime, hpaced⟩, hover⟩ :=
    advance_induction (P := fun p => s.OnTime p ∧ s.Paced p)
      (fun _ _ hover hp hattempted =>
        ⟨hp.1.attempted hover hattempted, hp.2.attempted hover hattempted⟩)
      ⟨onTime_begun, paced_begun⟩ hadvance
  have hend : last.clock.now.nanos = s.finish.nanos :=
    Nat.le_antisymm hontime.now_le (of_decide_eq_true hover)
  have hnow : last.clock.now = s.finish := congrArg Instant.mk hend
  have hledger := h.ledger
  -- At the start, nothing has been counted or collected.
  have htime : last.clock.now.nanos = ((s.stepsIn attempts).map s.taken).sum :=
    hledger.time.trans (Nat.zero_add _)
  have haccepted : last.clock.accepted = (s.stepsIn attempts).length :=
    hledger.accepted.trans (Nat.zero_add _)
  have hfailed : last.clock.failed = (s.retriesIn attempts).length :=
    hledger.failed.trans (Nat.zero_add _)
  have hlog : last.log.reverse = (s.stepsIn attempts).map fun q => (s.view q).logEntry :=
    hledger.log
  have hmessages : last.messages.reverse = (s.retriesIn attempts).map s.retry := hledger.messages
  have hcount : last.log.length = last.clock.accepted := by
    rw [haccepted, ← List.length_reverse, hlog, List.length_map]
  have hmade : attempts.length ≤ s.settings.maxIterations := h.length_le
  have hsplit := length_stepsIn_add_length_retriesIn s attempts
  have hontimes := h.onTime onTime_begun
  have hall : (s.result last).messages = (s.retriesIn attempts).map s.retry ++
      if (s.result last).status = .failed then
        [shortfallMessage (s.result last).statistics.successRatio s.settings.minSuccessRatio]
      else [] := by
    rw [← hmessages]
    exact messages_result
  refine ⟨hnow, ?_⟩
  exact {
    taken_bounds := by
      intro q hq
      obtain ⟨hq, hbefore⟩ := hontimes q (List.mem_of_mem_filter hq)
      exact Simulation.taken_bounds hbefore hq.ticking
    now_eq := by
      intro q hq
      exact now_nextClock (hontimes q (List.mem_of_mem_filter hq)).2
    sum_taken := htime.symm.trans hend
    finalTime_eq := congrArg Instant.seconds hnow
    log_eq := hlog
    acceptedSteps_eq := by
      show last.clock.accepted = last.log.reverse.length
      rw [List.length_reverse, hcount]
    failedSteps_eq := hfailed
    steps_le := by
      show last.clock.accepted + last.clock.failed ≤ _
      omega
    messages_eq := hall
    length_messages := by
      show _ = last.clock.failed + _
      rw [hall, List.length_append, List.length_map, hfailed]
      split <;> rfl
    length_series := by
      have hsamples := hpaced.length_samples
      have hpace : s.stride = s.settings.outputStride := Nat.max_eq_right hstride
      rw [if_pos hover, hpace, hcount] at hsamples
      show last.samples.reverse.length = 1 + last.clock.accepted ⌈/⌉ s.settings.outputStride
      rw [List.length_reverse, hsamples] }

/-- The stepping loop ends within the attempts that the settings allow, whatever is computed in
place of the rule.  With the rule it is the run; and if that gives a result, the steps taken make up
the duration exactly, and steps, rejected attempts, messages and samples are accounted for. -/
theorem run_within_budget {m : Model} {settings : SimulationSettings}
    (hprepare : prepare m settings = .ok s) (cancelAfter : Option Nat) :
    (∀ compute : Progress → List Body, ∃ attempts outcome,
      s.Stepping cancelAfter compute s.begun attempts outcome ∧
        attempts.length ≤ settings.maxIterations) ∧
    (∀ attempts outcome, s.Stepping cancelAfter s.next s.begun attempts outcome →
      s.run cancelAfter = outcome.map s.result) ∧
    ∀ result, s.run cancelAfter = .ok result → ∃ attempts last,
      s.Stepping cancelAfter s.next s.begun attempts (.ok last) ∧ result = s.result last ∧
        last.clock.now = Instant.ofSeconds settings.duration ∧ s.Settled attempts result := by
  obtain ⟨hcheck, hs⟩ := prepare_eq_ok hprepare
  have hsettings : s.settings = settings := by rw [hs]
  refine ⟨fun compute => ?_, fun attempts outcome h => h.run_eq, fun result hresult => ?_⟩
  · obtain ⟨attempts, outcome, h⟩ := exists_stepping s cancelAfter compute s.begun
    exact ⟨attempts, outcome, h, hsettings ▸ h.length_le⟩
  · obtain ⟨attempts, outcome, h⟩ := exists_stepping s cancelAfter s.next s.begun
    rw [h.run_eq] at hresult
    cases outcome with
    | error f => cases hresult
    | ok last =>
      have hstride : 1 ≤ s.settings.outputStride := hsettings ▸ one_le_outputStride hcheck
      obtain ⟨hnow, hsettled⟩ := settled hstride h
      obtain rfl := Except.ok.inj hresult
      refine ⟨attempts, last, h, rfl, ?_, hsettled⟩
      rw [hnow, finish, hsettings]

/-- Four attempts, of which one is rejected, cover a second and a half. -/
theorem settled_fastSpring :
    ∃ attempts result, (fastSimulation 2).run none = .ok result ∧
      (fastSimulation 2).Settled attempts result ∧ attempts.length ≤ 10 ∧
      ((fastSimulation 2).stepsIn attempts).length = 3 ∧
      ((fastSimulation 2).retriesIn attempts).length = 1 ∧ result.series.length = 3 := by
  have hprepare : prepare fastSpring { fastSettings with outputStride := 2 } =
      .ok (fastSimulation 2) := prepare_eq_of_check rfl
  have hfigures : (((fastSimulation 2).run none).toOption.map fun r => (r.log.length,
      r.statistics.failedSteps, r.series.length)) = some (3, 1, 3) := by decide +kernel
  obtain ⟨result, hresult, hfigures⟩ := exists_of_toOption_map hfigures
  obtain ⟨hsteps, hfigures⟩ := Prod.mk.inj hfigures
  obtain ⟨hretries, hsamples⟩ := Prod.mk.inj hfigures
  obtain ⟨-, -, hok⟩ := run_within_budget hprepare none
  obtain ⟨attempts, _, hstepping, -, -, hsettled⟩ := hok result hresult
  refine ⟨attempts, result, hresult, hsettled, hstepping.length_le, ?_, ?_, hsamples⟩
  · rw [← hsteps, hsettled.log_eq, List.length_map]
  · rw [← hsettled.failedSteps_eq, hretries]

end Simulation

end PhysicsLab
