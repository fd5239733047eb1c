import PhysicsLab.Proofs.Simulation.Budget

/-!
# The limit of attempts only cuts runs

No attempt looks at how many more are allowed.  So the loop of a run that reaches its end does the
same under any other limit, up to the attempt for which that limit leaves no room: with as many
attempts as were needed the end is reached again, and with fewer the run ends with that limit as
the cause.

## Main definitions

* `Simulation.withLimit` — a simulation with another limit of attempts

## Main statements

* `Simulation.advance_withLimit` — a loop that reaches its end, under another limit
* `Simulation.run_of_limit`
-/

namespace PhysicsLab

namespace Simulation

variable {s : Simulation} {p p' last : Progress} {cancelAfter : Option Nat} {result : Run}

/-! ## §1 Attempts that are made -/

theorem attempts_attempt (h : s.attempt p = .ok p') : p'.clock.attempts = p.clock.attempts + 1 := by
  rw [← attemptWith_next] at h
  exact attempts_attemptWith h

/-- A loop that reaches its end has not made more attempts than were left. -/
theorem attempts_advance {left : Nat} (h : s.advance cancelAfter left p = .ok last) :
    p.clock.attempts ≤ last.clock.attempts ∧ last.clock.attempts ≤ p.clock.attempts + left := by
  induction left generalizing p with
  | zero =>
    obtain ⟨-, rfl⟩ | ⟨-, -, rest, next, hleft, -⟩ := advance_eq_ok h
    · exact ⟨Nat.le_refl _, Nat.le_refl _⟩
    · cases hleft
  | succ left ih =>
    obtain ⟨-, rfl⟩ | ⟨-, -, rest, next, hleft, hattempt, hrest⟩ := advance_eq_ok h
    · exact ⟨Nat.le_refl _, Nat.le_add_right _ _⟩
    · obtain rfl := Nat.succ.inj hleft
      have hcount := attempts_attempt hattempt
      obtain ⟨hlow, hhigh⟩ := ih hrest
      omega

/-- Before the first attempt none has been counted. -/
theorem attempts_begun : s.begun.clock.attempts = 0 := rfl

theorem steps_le_of_run (h : s.run cancelAfter = .ok result) :
    result.statistics.acceptedSteps + result.statistics.failedSteps ≤ s.settings.maxIterations := by
  obtain ⟨last, hlast, rfl⟩ := run_eq_ok h
  have hbound := (attempts_advance hlast).2
  rw [attempts_begun, Nat.zero_add] at hbound
  exact hbound

/-! ## §2 Another limit -/

/-- The simulation with another limit of attempts. -/
def withLimit (s : Simulation) (limit : Nat) : Simulation :=
  { s with settings := { s.settings with maxIterations := limit } }

theorem attempt_withLimit {limit : Nat} : (s.withLimit limit).attempt p = s.attempt p := rfl

theorem isOver_withLimit {limit : Nat} : (s.withLimit limit).isOver p = s.isOver p := rfl

/-- A loop that reaches its end reaches it under any limit that leaves room for its attempts, and
is cut by any other. -/
theorem advance_withLimit {left : Nat} (h : s.advance cancelAfter left p = .ok last)
    (limit room : Nat) :
    (s.withLimit limit).advance cancelAfter room p =
      if last.clock.attempts ≤ p.clock.attempts + room then .ok last
      else .error (.iterationCap limit) := by
  -- Where the end is reached, no more room is needed.
  have hended {room : Nat} (hover : s.isOver last = true) :
      (s.withLimit limit).advance cancelAfter room last =
        if last.clock.attempts ≤ last.clock.attempts + room then .ok last
        else .error (.iterationCap limit) := by
    rw [if_pos (Nat.le_add_right _ _)]
    cases room <;> exact if_pos hover
  induction left generalizing p room with
  | zero =>
    obtain ⟨hover, rfl⟩ | ⟨-, -, rest, next, hleft, -⟩ := advance_eq_ok h
    · exact hended hover
    · cases hleft
  | succ left ih =>
    obtain ⟨hover, rfl⟩ | ⟨hover, hgo, rest, next, hleft, hattempt, hrest⟩ := advance_eq_ok h
    · exact hended hover
    · obtain rfl := Nat.succ.inj hleft
      have hcount := attempts_attempt hattempt
      cases room with
      | zero =>
        -- The loop needs this attempt at least.
        have hneeded : next.clock.attempts ≤ last.clock.attempts := (attempts_advance hrest).1
        rw [if_neg (by omega), advance, isOver_withLimit, if_neg hover, if_neg hgo]
        rfl
      | succ room =>
        have hsum : p.clock.attempts + (room + 1) = next.clock.attempts + room := by omega
        rw [hsum, ← ih hrest room, advance, isOver_withLimit, if_neg hover, if_neg hgo,
          attempt_withLimit, hattempt]

/-- A run that gives a result, under another limit. -/
theorem run_withLimit (h : s.run cancelAfter = .ok result) (limit : Nat) :
    (s.withLimit limit).run cancelAfter =
      if result.statistics.acceptedSteps + result.statistics.failedSteps ≤ limit then .ok result
      else .error (.iterationCap limit) := by
  obtain ⟨last, hlast, rfl⟩ := run_eq_ok h
  have hattempts : last.clock.attempts =
      (s.result last).statistics.acceptedSteps + (s.result last).statistics.failedSteps := rfl
  have hloop := advance_withLimit hlast limit limit
  rw [attempts_begun, Nat.zero_add, hattempts] at hloop
  have hrun : (s.withLimit limit).run cancelAfter =
      ((s.withLimit limit).advance cancelAfter limit s.begun).map s.result := rfl
  rw [hrun, hloop]
  split <;> rfl

theorem withLimit_withLimit {low high : Nat} : (s.withLimit high).withLimit low = s.withLimit low :=
  rfl

theorem eq_withLimit_of_prepare {m : Model} {settings : SimulationSettings} {limit : Nat}
    (h : prepare m { settings with maxIterations := limit } = .ok s) :
    s = withLimit ⟨settings, .ofModel m, m.entities.map (Body.ofEntity m)⟩ limit :=
  (prepare_eq_ok h).2

/-- Of two runs that differ only in how many attempts they allow, the one that allows more gives
every result that the other gives.  If it gives a result after some number of attempts, the other
gives the same if it allows that many, and otherwise is cut with its own limit as the cause. -/
theorem run_of_limit {m : Model} {settings : SimulationSettings} {low high : Nat}
    {sLow sHigh : Simulation} (hle : low ≤ high)
    (hlow : prepare m { settings with maxIterations := low } = .ok sLow)
    (hhigh : prepare m { settings with maxIterations := high } = .ok sHigh)
    (cancelAfter : Option Nat) :
    (∀ result, sLow.run cancelAfter = .ok result → sHigh.run cancelAfter = .ok result) ∧
    ∀ result, sHigh.run cancelAfter = .ok result →
      (result.statistics.acceptedSteps + result.statistics.failedSteps ≤ low →
        sLow.run cancelAfter = .ok result) ∧
      (low < result.statistics.acceptedSteps + result.statistics.failedSteps →
        sLow.run cancelAfter = .error (.iterationCap low)) := by
  obtain rfl := eq_withLimit_of_prepare hlow
  obtain rfl := eq_withLimit_of_prepare hhigh
  constructor
  · intro result hresult
    have hrun := run_withLimit hresult high
    rw [withLimit_withLimit] at hrun
    -- A run that was not cut has stayed within its own limit.
    rw [hrun, if_pos ((steps_le_of_run hresult).trans hle)]
  · intro result hresult
    have hrun := run_withLimit hresult low
    rw [withLimit_withLimit] at hrun
    exact ⟨fun hroom => by rw [hrun, if_pos hroom],
      fun hshort => by rw [hrun, if_neg (Nat.not_le_of_lt hshort)]⟩

/-- The fast spring takes four attempts, one of them in vain: it gets through with a limit of four,
and is cut by a limit of three. -/
theorem run_fastSpring_limited :
    ∃ s₃ s₄ s₁₀ result,
      prepare fastSpring { fastSettings with maxIterations := 3 } = .ok s₃ ∧
      prepare fastSpring { fastSettings with maxIterations := 4 } = .ok s₄ ∧
      prepare fastSpring { fastSettings with maxIterations := 10 } = .ok s₁₀ ∧
      s₁₀.run none = .ok result ∧ result.statistics.acceptedSteps = 3 ∧
      result.statistics.failedSteps = 1 ∧
      s₄.run none = .ok result ∧ s₃.run none = .error (.iterationCap 3) := by
  have hprepare (limit : Nat)
      (hcheck : { fastSettings with maxIterations := limit }.check = .ok ()) :
      prepare fastSpring { fastSettings with maxIterations := limit } =
        .ok ((fastSimulation 2).withLimit limit) := prepare_eq_of_check hcheck
  have hthree := hprepare 3 rfl
  have hfour := hprepare 4 rfl
  have hten := hprepare 10 rfl
  have hfigures : ((((fastSimulation 2).withLimit 10).run none).toOption.map fun r =>
      (r.statistics.acceptedSteps, r.statistics.failedSteps)) = some (3, 1) := by decide +kernel
  obtain ⟨result, hresult, hfigures⟩ := exists_of_toOption_map hfigures
  obtain ⟨haccepted, hfailed⟩ := Prod.mk.inj hfigures
  refine ⟨_, _, _, result, hthree, hfour, hten, hresult, haccepted, hfailed, ?_, ?_⟩
  · exact ((run_of_limit (by decide) hfour hten none).2 result hresult).1
      (by rw [haccepted, hfailed])
  · exact ((run_of_limit (by decide) hthree hten none).2 result hresult).2
      (by rw [haccepted, hfailed]; decide)

end Simulation

end PhysicsLab
