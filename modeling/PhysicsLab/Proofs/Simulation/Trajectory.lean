import PhysicsLab.Proofs.Settings
import PhysicsLab.Proofs.Simulation.Replay

/-!
# Recording does not influence a run

An attempt either takes a step or halves it, whatever has been recorded before.  So two simulations
that differ only in how often they record go through the same states, and the samples of the one
that records less are among those of the other.

## Main definitions

* `Progress.unsampled` — a progress without what is recorded of it
* `Simulation.tried` — the progress after an attempt, before anything is recorded
* `Simulation.withStride` — a simulation with another number of steps from sample to sample

## Main statements

* `Simulation.unsampled_attempt`, `Simulation.unsampled_advance`
* `Simulation.run_independent_of_stride`
-/

namespace PhysicsLab

/-- The progress without its samples and the count of steps since the last one. -/
def Progress.unsampled (p : Progress) : Progress := { p with samples := [], unrecorded := 0 }

@[simp] theorem Progress.clock_unsampled (p : Progress) : p.unsampled.clock = p.clock := rfl
@[simp] theorem Progress.log_unsampled (p : Progress) : p.unsampled.log = p.log := rfl
@[simp] theorem Progress.messages_unsampled (p : Progress) :
    p.unsampled.messages = p.messages := rfl

namespace Simulation

variable {s : Simulation} {p p' q q' : Progress} {cancelAfter : Option Nat}

/-! ## §1 What an attempt does, but for recording -/

/-- The message about the next attempt, if it is rejected. -/
def retry (s : Simulation) (p : Progress) : String :=
  retryMessage p.clock.now.seconds (Instant.secondsOf (s.taken p))
    (Instant.secondsOf (p.clock.step / 2))

/-- The progress with half the step, after a rejected attempt. -/
def halved (s : Simulation) (p : Progress) : Progress :=
  { p with
    clock := { p.clock.fail with step := p.clock.step / 2 }
    messages := s.retry p :: p.messages }

/-- The progress after an attempt that is not given up, before anything is recorded. -/
def tried (s : Simulation) (p : Progress) : Progress :=
  if (s.next p).all Body.isFinite then s.moved p else s.halved p

theorem reject_eq_halved (h : reject p (s.taken p) = .ok p') :
    p' = s.halved p ∧ p.clock.floor ≤ p.clock.step / 2 := by
  unfold reject Clock.reject at h
  dsimp only at h
  split at h
  · cases h
  · next hfloor =>
    have heq : s.halved p = p' := Except.ok.inj h
    exact ⟨heq.symm, Nat.le_of_not_lt hfloor⟩

theorem unsampled_attempt (h : s.attempt p = .ok p') : p'.unsampled = (s.tried p).unsampled := by
  unfold tried
  by_cases hfinite : (s.next p).all Body.isFinite = true
  · rw [if_pos hfinite]
    cases attempted h with
    | rejected _ _ hbad => exact absurd hfinite hbad
    | passed => rfl
    | recorded => rfl
  · rw [if_neg hfinite]
    have hreject : reject p (s.taken p) = .ok p' := by
      rw [← h]
      exact (if_neg hfinite).symm
    rw [(reject_eq_halved hreject).1]

theorem unsampled_tried (h : p.unsampled = q.unsampled) :
    (s.tried p).unsampled = (s.tried q).unsampled := by
  -- Neither the step nor the message looks at what is recorded.
  have hblind (r : Progress) : (s.tried r.unsampled).unsampled = (s.tried r).unsampled := by
    have hnext : s.next r.unsampled = s.next r := rfl
    unfold tried
    rw [hnext]
    split <;> rfl
  rw [← hblind p, h, hblind q]

/-! ## §2 Simulations and what is collected -/

theorem prepare_eq_ok {m : Model} {settings : SimulationSettings} (h : prepare m settings = .ok s) :
    settings.check = .ok () ∧
      s = ⟨settings, .ofModel m, m.entities.map (Body.ofEntity m)⟩ := by
  unfold prepare at h
  cases hcheck : settings.check with
  | error f => simp [hcheck, Except.map] at h
  | ok _ =>
    rw [hcheck] at h
    exact ⟨rfl, (Except.ok.inj h).symm⟩

theorem prepare_eq_of_check {m : Model} {settings : SimulationSettings}
    (h : settings.check = .ok ()) :
    prepare m settings = .ok ⟨settings, .ofModel m, m.entities.map (Body.ofEntity m)⟩ := by
  rw [prepare, h]
  rfl

/-- What is seen of a result is seen of the run that has it. -/
theorem exists_of_toOption_map {α : Type} {x : Except Failure Run} {f : Run → α} {b : α}
    (h : x.toOption.map f = some b) : ∃ r, x = .ok r ∧ f r = b := by
  cases x with
  | error _ => cases h
  | ok r => exact ⟨r, rfl, Option.some.inj h⟩

/-- What is collected up to the end is what the replay of the log shows. -/
theorem collected {left : Nat} (h : s.advance cancelAfter left s.begun = .ok p) :
    s.Replayed p ∧ s.Sampled p ∧ s.isOver p = true := by
  have hstep (p p' : Progress) (hover : ¬ s.isOver p = true) (hp : s.Replayed p ∧ s.Sampled p)
      (hattempted : s.Attempted p p') : s.Replayed p' ∧ s.Sampled p' :=
    ⟨hp.1.attempted hattempted, hp.2.attempted hp.1 hover hattempted⟩
  obtain ⟨⟨hreplayed, hsampled⟩, hover⟩ :=
    advance_induction hstep ⟨replayed_start, sampled_start⟩ h
  exact ⟨hreplayed, hsampled, hover⟩

/-! ## §3 Recording more or less -/

/-- The simulation with another number of steps from one sample to the next. -/
def withStride (s : Simulation) (k : Nat) : Simulation :=
  { s with settings := { s.settings with outputStride := k } }

/-- Two simulations that differ only in what they record end alike, but for what is recorded. -/
theorem unsampled_advance {k left : Nat} (h : s.advance cancelAfter left p = .ok p')
    (h' : (s.withStride k).advance cancelAfter left q = .ok q')
    (hpq : p.unsampled = q.unsampled) : p'.unsampled = q'.unsampled := by
  induction left generalizing p q with
  | zero =>
    rcases advance_eq_ok h with ⟨-, rfl⟩ | ⟨-, -, _, _, hleft, -⟩
    · rcases advance_eq_ok h' with ⟨-, rfl⟩ | ⟨-, -, _, _, hleft, -⟩
      · exact hpq
      · exact absurd hleft (Nat.succ_ne_zero _).symm
    · exact absurd hleft (Nat.succ_ne_zero _).symm
  | succ left ih =>
    -- Whether the end is reached is seen from the clock, which is the same in both.
    have hover : s.isOver p = (s.withStride k).isOver q := by
      show s.isOver p.unsampled = s.isOver q.unsampled
      rw [hpq]
    rcases advance_eq_ok h with ⟨hp, rfl⟩ | ⟨hp, -, _, next, hleft, hattempt, hrest⟩
    · rcases advance_eq_ok h' with ⟨-, rfl⟩ | ⟨hq, -⟩
      · exact hpq
      · exact absurd (hover ▸ hp) hq
    · rcases advance_eq_ok h' with ⟨hq, -⟩ | ⟨-, -, _, next', hleft', hattempt', hrest'⟩
      · exact absurd (hover.trans hq) hp
      · obtain rfl := Nat.succ.inj hleft
        obtain rfl := Nat.succ.inj hleft'
        refine ih hrest hrest' ?_
        calc next.unsampled = (s.tried p).unsampled := unsampled_attempt hattempt
          _ = (s.tried q).unsampled := unsampled_tried hpq
          _ = next'.unsampled := (unsampled_attempt hattempt').symm

theorem picked_true {α : Type} {keep : Nat → Bool} {xs : List α} (h : ∀ i, keep i = true) :
    picked keep xs = xs := by
  have hall : xs.zipIdx.filter (fun x => keep x.2) = xs.zipIdx :=
    List.filter_eq_self.2 fun x _ => h x.2
  rw [picked, hall, List.zipIdx_map_fst]

theorem one_le_outputStride {settings : SimulationSettings} (h : settings.check = .ok ()) :
    1 ≤ settings.outputStride :=
  (SimulationSettings.check_eq_ok_iff.1 h).1.outputStride

/-- Recording less often gives the same run with fewer samples: those after every so many steps, and
the last one.  With a sample after each step there are as many as there are steps, and the first
one. -/
theorem run_independent_of_stride {m : Model} {settings : SimulationSettings} {k : Nat}
    {s₁ sₖ : Simulation} {fine coarse : Run}
    (hfine : prepare m { settings with outputStride := 1 } = .ok s₁)
    (hcoarse : prepare m { settings with outputStride := k } = .ok sₖ)
    (hrunfine : s₁.run cancelAfter = .ok fine) (hruncoarse : sₖ.run cancelAfter = .ok coarse) :
    fine.series.length = fine.log.length + 1 ∧
      coarse = { fine with
        series := picked (fun i => i % k == 0 || i + 1 == fine.series.length) fine.series } := by
  obtain ⟨-, hs₁⟩ := prepare_eq_ok hfine
  obtain ⟨hcheck, hsₖ⟩ := prepare_eq_ok hcoarse
  obtain rfl : sₖ = s₁.withStride k := by rw [hs₁, hsₖ]; rfl
  have hone : s₁.stride = 1 := by rw [hs₁]; rfl
  have hpos : 1 ≤ k := one_le_outputStride hcheck
  have hk : (s₁.withStride k).stride = k := by
    show max 1 k = k
    exact Nat.max_eq_right hpos
  obtain ⟨p, hp, rfl⟩ := run_eq_ok hrunfine
  obtain ⟨q, hq, rfl⟩ := run_eq_ok hruncoarse
  have hpq : p.unsampled = q.unsampled := unsampled_advance hp hq rfl
  have hlog : p.log = q.log := by simpa using congrArg Progress.log hpq
  obtain ⟨-, hfinesamples, -⟩ := collected hp
  obtain ⟨-, hcoarsesamples, hover⟩ := collected hq
  -- With a sample after each step, the series shows every state that the log leads through.
  have hall : p.samples.reverse = s₁.moments p.log.reverse := by
    rw [hfinesamples.samples_eq, picked_true]
    intro i
    simp [isRecorded, hone, Nat.mod_one]
  have hlength : p.samples.reverse.length = p.log.reverse.length + 1 := by
    rw [hall, length_moments]
  have hsome : q.samples.reverse =
      picked (fun i => i % k == 0 || i + 1 == p.samples.reverse.length) p.samples.reverse := by
    have hkeep : (s₁.withStride k).isRecorded q =
        fun i => i % k == 0 || i + 1 == p.samples.reverse.length := by
      funext i
      rw [isRecorded, hk, hover, Bool.and_true, hlength, List.length_reverse, hlog]
      simp
    rw [hcoarsesamples.samples_eq, hkeep, hall, hlog]
    rfl
  refine ⟨hlength, ?_⟩
  calc (s₁.withStride k).result q
      = { s₁.result q.unsampled with series := q.samples.reverse } := rfl
    _ = { s₁.result p.unsampled with series := q.samples.reverse } := by rw [hpq]
    _ = { s₁.result p with series := q.samples.reverse } := rfl
    _ = { s₁.result p with
          series := picked (fun i => i % k == 0 || i + 1 == p.samples.reverse.length)
            p.samples.reverse } := by rw [hsome]

/-- The simulation of the fast spring that records every so many steps. -/
def fastSimulation (k : Nat) : Simulation :=
  ⟨{ fastSettings with outputStride := k }, .ofModel fastSpring,
    fastSpring.entities.map (Body.ofEntity fastSpring)⟩

/-- Every second of three steps is recorded, and the last one. -/
theorem run_fastSpring_strided :
    ∃ fine coarse,
      prepare fastSpring { fastSettings with outputStride := 1 } = .ok (fastSimulation 1) ∧
      prepare fastSpring { fastSettings with outputStride := 2 } = .ok (fastSimulation 2) ∧
      (fastSimulation 1).run none = .ok fine ∧ (fastSimulation 2).run none = .ok coarse ∧
      fine.messages.length = 1 ∧ fine.series.map Sample.time = [0.0, 0.5, 1.0, 1.5] ∧
      coarse.series.map Sample.time = [0.0, 1.0, 1.5] ∧
      coarse = { fine with
        series := picked (fun i => i % 2 == 0 || i + 1 == fine.series.length) fine.series } := by
  have hone : prepare fastSpring { fastSettings with outputStride := 1 } =
      .ok (fastSimulation 1) := prepare_eq_of_check rfl
  have htwo : prepare fastSpring { fastSettings with outputStride := 2 } =
      .ok (fastSimulation 2) := prepare_eq_of_check rfl
  have hfigures : (((fastSimulation 1).run none).toOption.map fun r => (r.messages.length,
      r.series.map Sample.time)) = some (1, [0.0, 0.5, 1.0, 1.5]) := by decide +kernel
  have htimes : (((fastSimulation 2).run none).toOption.map fun r => r.series.map Sample.time) =
      some [0.0, 1.0, 1.5] := by decide +kernel
  obtain ⟨fine, hfine, hfigures⟩ := exists_of_toOption_map hfigures
  obtain ⟨coarse, hcoarse, htimes⟩ := exists_of_toOption_map htimes
  obtain ⟨hmessages, hall⟩ := Prod.mk.inj hfigures
  exact ⟨fine, coarse, hone, htwo, hfine, hcoarse, hmessages, hall, htimes,
    (run_independent_of_stride hone htwo hfine hcoarse).2⟩

end Simulation

end PhysicsLab
