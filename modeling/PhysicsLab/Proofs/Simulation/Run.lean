import PhysicsLab.Simulation.Run

/-!
# Runs step by step

An attempt does one of three things: it is rejected, it takes a step, or it takes a step and records
it.  What holds at the start and is preserved by all three holds at the end of a run.

## Main definitions

* `Simulation.moved`, `Simulation.sampled` — the progress with a step, and with a sample
* `Simulation.begun` — the progress at the start
* `Simulation.Attempted` — what an attempt does

## Main statements

* `Clock.reject_eq_ok_iff`, `Simulation.attempted`
* `Simulation.advance_eq_ok`, `Simulation.run_eq_ok` — loops and runs that give a result
* `Simulation.advance_induction`, `Simulation.run_induction`
-/

namespace PhysicsLab

/-- An attempt can be tried again exactly if the halved step is not below the floor. -/
theorem Clock.reject_eq_ok_iff {c c' : Clock} :
    c.reject = .ok c' ↔ c.floor ≤ c.step / 2 ∧ c' = { c.fail with step := c.step / 2 } := by
  unfold Clock.reject
  dsimp only
  split
  · next hbelow =>
    have hnot : ¬ c.floor ≤ c.step / 2 := Nat.not_le_of_lt hbelow
    simp [hnot]
  · next hfloor =>
    rw [Except.ok.injEq, eq_comm]
    exact (and_iff_right (Nat.le_of_not_gt hfloor)).symm

namespace Simulation

variable {s : Simulation} {p p' : Progress} {cancelAfter : Option Nat} {left : Nat} {result : Run}

/-! ## §1 Attempts -/

/-- The size of the next attempt in nanoseconds. -/
def taken (s : Simulation) (p : Progress) : Nat := p.clock.nextStep s.finish

/-- The bodies after the next attempt. -/
def next (s : Simulation) (p : Progress) : List Body :=
  s.rule.advance p.bodies p.clock.now.seconds (Instant.secondsOf (s.taken p))

/-- The clock after the next step. -/
def nextClock (s : Simulation) (p : Progress) : Clock :=
  p.clock.accept (s.taken p) (velocityChange p.bodies (s.next p))

/-- What is seen of the next step. -/
def view (s : Simulation) (p : Progress) : StepView where
  time := (s.nextClock p).now.seconds
  step := Instant.secondsOf (s.taken p)
  before := p.bodies
  after := s.next p
  energy := s.rule.energy (s.next p)

/-- The progress with the next step. -/
def moved (s : Simulation) (p : Progress) : Progress :=
  { p with
    clock := s.nextClock p
    bodies := s.next p
    events := (s.view p).events.reverse ++ p.events
    log := (s.view p).logEntry :: p.log
    unrecorded := p.unrecorded + 1 }

/-- The sample of where a progress has got to. -/
def sampleNow (s : Simulation) (p : Progress) : Sample :=
  .of p.clock.now.seconds p.bodies (s.rule.energy p.bodies)

/-- The progress with a sample of where it has got to. -/
def sampled (s : Simulation) (p : Progress) : Progress :=
  { p with samples := s.sampleNow p :: p.samples, unrecorded := 0 }

/-- The progress of a simulation at its start, which is recorded. -/
def begun (s : Simulation) : Progress :=
  s.sampled { clock := .ofSettings s.settings, bodies := s.bodies }

/-- What an attempt does. -/
inductive Attempted (s : Simulation) (p : Progress) : Progress → Prop
  | rejected {clock : Clock} (message : String) (hclock : p.clock.reject = .ok clock)
      (hbad : ¬ (s.next p).all Body.isFinite = true) :
      Attempted s p { p with clock, messages := message :: p.messages }
  | passed (hgood : (s.next p).all Body.isFinite = true)
      (hstride : (s.moved p).unrecorded ≠ s.stride) (hover : ¬ s.isOver (s.moved p) = true) :
      Attempted s p (s.moved p)
  | recorded (hgood : (s.next p).all Body.isFinite = true)
      (hdue : (s.moved p).unrecorded = s.stride ∨ s.isOver (s.moved p) = true) :
      Attempted s p (s.sampled (s.moved p))

theorem record_eq (s : Simulation) (p : Progress) : s.record p =
    (Series.follows p.samples.head? (s.sampleNow p)).map fun _ => s.sampled p := rfl

theorem record_eq_ok (h : s.record p = .ok p') : p' = s.sampled p := by
  rw [record_eq] at h
  cases hfollows : Series.follows p.samples.head? (s.sampleNow p) with
  | error f => simp [hfollows, Except.map] at h
  | ok _ =>
    rw [hfollows] at h
    exact (Except.ok.inj h).symm

/-- A rejected attempt changes the clock and the messages, and nothing else. -/
theorem reject_eq_ok {taken : Nat} (h : reject p taken = .ok p') :
    ∃ clock message, p.clock.reject = .ok clock ∧
      p' = { p with clock, messages := message :: p.messages } := by
  unfold reject at h
  cases hclock : p.clock.reject with
  | error f => simp [hclock, Except.map] at h
  | ok clock =>
    rw [hclock] at h
    exact ⟨clock, _, rfl, (Except.ok.inj h).symm⟩

theorem attempted (h : s.attempt p = .ok p') : s.Attempted p p' := by
  unfold attempt at h
  dsimp only at h
  split at h
  · next hgood =>
    unfold accept at h
    dsimp only at h
    split at h
    · next hdue =>
      rw [record_eq_ok h]
      exact .recorded hgood hdue
    · next hdue =>
      obtain ⟨hstride, hover⟩ := not_or.1 hdue
      rw [← Except.ok.inj h]
      exact .passed hgood hstride hover
  · next hbad =>
    obtain ⟨clock, message, hclock, rfl⟩ := reject_eq_ok h
    exact .rejected message hclock hbad

/-! ## §2 Loops and runs that give a result -/

theorem advance_eq_ok (h : s.advance cancelAfter left p = .ok p') :
    s.isOver p = true ∧ p' = p ∨
      ¬ s.isOver p = true ∧ ¬ isCancelled cancelAfter p = true ∧
        ∃ rest next, left = rest + 1 ∧ s.attempt p = .ok next ∧
          s.advance cancelAfter rest next = .ok p' := by
  cases left with
  | zero =>
    unfold advance at h
    split at h
    · next hover => exact .inl ⟨hover, (Except.ok.inj h).symm⟩
    · split at h <;> cases h
  | succ rest =>
    unfold advance at h
    split at h
    · next hover => exact .inl ⟨hover, (Except.ok.inj h).symm⟩
    · next hover =>
      split at h
      · cases h
      · next hgo =>
        split at h
        · next next hattempt => exact .inr ⟨hover, hgo, rest, next, rfl, hattempt, h⟩
        · cases h

theorem run_eq_ok (h : s.run cancelAfter = .ok result) :
    ∃ last, s.advance cancelAfter s.settings.maxIterations s.begun = .ok last ∧
      result = s.result last := by
  -- There is no sample that the first one would have to follow.
  have hrun : s.run cancelAfter =
      (s.advance cancelAfter s.settings.maxIterations s.begun).map s.result := rfl
  rw [hrun] at h
  cases hlast : s.advance cancelAfter s.settings.maxIterations s.begun with
  | error f => simp [hlast, Except.map] at h
  | ok last =>
    rw [hlast] at h
    exact ⟨last, rfl, (Except.ok.inj h).symm⟩

/-! ## §3 Invariants -/

/-- What attempts preserve holds when the end is reached. -/
theorem advance_induction {P : Progress → Prop}
    (hstep : ∀ p p', ¬ s.isOver p = true → P p → s.Attempted p p' → P p') (hp : P p)
    (h : s.advance cancelAfter left p = .ok p') : P p' ∧ s.isOver p' = true := by
  induction left generalizing p with
  | zero =>
    obtain ⟨hover, rfl⟩ | ⟨-, -, rest, next, hleft, -⟩ := advance_eq_ok h
    · exact ⟨hp, hover⟩
    · cases hleft
  | succ left ih =>
    obtain ⟨hover, rfl⟩ | ⟨hover, -, rest, next, hleft, hattempt, hrest⟩ := advance_eq_ok h
    · exact ⟨hp, hover⟩
    · obtain rfl := Nat.succ.inj hleft
      exact ih (hstep _ _ hover hp (attempted hattempt)) hrest

/-- What holds at the start and is preserved by attempts holds of the progress that a run gives the
result of. -/
theorem run_induction {P : Progress → Prop} (hstart : P s.begun)
    (hstep : ∀ p p', ¬ s.isOver p = true → P p → s.Attempted p p' → P p')
    (h : s.run cancelAfter = .ok result) :
    ∃ p, P p ∧ s.isOver p = true ∧ result = s.result p := by
  obtain ⟨last, hlast, rfl⟩ := run_eq_ok h
  obtain ⟨hp, hover⟩ := advance_induction hstep hstart hlast
  exact ⟨last, hp, hover, rfl⟩

end Simulation

end PhysicsLab
