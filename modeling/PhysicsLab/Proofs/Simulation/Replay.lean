import PhysicsLab.Proofs.Simulation.Run

/-!
# The log determines a run

Following the steps of the log from the initial bodies gives the states that a run went through.
Its samples, its events and the energies of its log are those of these states, so that nothing else
about the attempts matters: what a rejected attempt leaves behind is a message and a shorter step.

## Main definitions

* `Rule.replay` — what is seen when the steps of a log are followed
* `picked` — the entries of a list at some places
* `Simulation.Replayed` — a progress agrees with the replay of its log

## Main statements

* `Simulation.run_eq_replay`
-/

namespace PhysicsLab

/-! ## §1 Following a log -/

/-- What is seen when the steps of a log are followed from a time and some bodies.  Each entry says
when its step ends, and so when the next one starts. -/
def Rule.replay (r : Rule) : Float → List Body → List LogEntry → List StepView
  | _, _, [] => []
  | start, bodies, e :: rest =>
    let next := r.advance bodies start e.step
    { time := e.time, step := e.step, before := bodies, after := next, energy := r.energy next } ::
      replay r e.time next rest

/-- The time and the bodies that the steps of a log lead to. -/
def Rule.reach (r : Rule) (start : Float) (bodies : List Body) (log : List LogEntry) :
    Float × List Body :=
  log.foldl (fun m e => (e.time, r.advance m.2 m.1 e.step)) (start, bodies)

/-- The sample after a step. -/
def StepView.sample (v : StepView) : Sample := .of v.time v.after v.energy

variable {r : Rule} {start : Float} {bodies : List Body}

theorem Rule.replay_append {first rest : List LogEntry} :
    r.replay start bodies (first ++ rest) = r.replay start bodies first ++
      r.replay (r.reach start bodies first).1 (r.reach start bodies first).2 rest := by
  induction first generalizing start bodies with
  | nil => rfl
  | cons e first ih => exact congrArg _ ih

theorem Rule.reach_append {first rest : List LogEntry} :
    r.reach start bodies (first ++ rest) =
      r.reach (r.reach start bodies first).1 (r.reach start bodies first).2 rest :=
  List.foldl_append

theorem Rule.length_replay {log : List LogEntry} :
    (r.replay start bodies log).length = log.length := by
  induction log generalizing start bodies with
  | nil => rfl
  | cons e rest ih => exact congrArg (· + 1) ih

/-! ## §2 Places in a list -/

/-- The entries of a list at the places to keep. -/
def picked {α : Type} (keep : Nat → Bool) (xs : List α) : List α :=
  (xs.zipIdx.filter fun x => keep x.2).map Prod.fst

theorem picked_singleton {α : Type} {keep : Nat → Bool} {x : α} (h : keep 0 = true) :
    picked keep [x] = [x] := by
  simp [picked, h]

/-- One more entry at the end changes nothing before it, where the same places are kept. -/
theorem picked_append {α : Type} {keep keep' : Nat → Bool} {xs : List α} {x : α}
    (h : ∀ i < xs.length, keep' i = keep i) :
    picked keep' (xs ++ [x]) = picked keep xs ++ if keep' xs.length then [x] else [] := by
  have hold : (xs.zipIdx.filter fun y => keep' y.2) = xs.zipIdx.filter fun y => keep y.2 :=
    List.filter_congr fun y hy => h y.2 (List.snd_lt_of_mem_zipIdx hy)
  rw [picked, List.zipIdx_append, List.filter_append, List.map_append, hold, picked]
  congr 1
  by_cases hlast : keep' xs.length = true <;> simp [hlast]

/-- The remainder grows by one until it would reach the divisor. -/
theorem mod_succ_cases {n k : Nat} (hk : 0 < k) :
    n % k + 1 = k ∧ (n + 1) % k = 0 ∨ n % k + 1 ≠ k ∧ (n + 1) % k = n % k + 1 := by
  have hless := Nat.mod_lt n hk
  have hsum : (n + 1) % k = (n % k + 1) % k := by rw [Nat.mod_add_mod]
  by_cases hfull : n % k + 1 = k
  · exact .inl ⟨hfull, by rw [hsum, hfull, Nat.mod_self]⟩
  · exact .inr ⟨hfull, by rw [hsum, Nat.mod_eq_of_lt (by omega)]⟩

/-! ## §3 Progress and log -/

theorem Clock.now_reject {c c' : Clock} (h : c.reject = .ok c') : c'.now = c.now := by
  obtain ⟨-, rfl⟩ := Clock.reject_eq_ok_iff.1 h
  rfl

namespace Simulation

variable {s : Simulation} {p p' : Progress}

/-- What is seen when the steps of a log are followed from the initial bodies. -/
def replayed (s : Simulation) (log : List LogEntry) : List StepView :=
  s.rule.replay 0.0 s.bodies log

/-- The samples of the initial bodies and of all states that a log leads through. -/
def moments (s : Simulation) (log : List LogEntry) : List Sample :=
  .of 0.0 s.bodies (s.rule.energy s.bodies) :: (s.replayed log).map StepView.sample

/-- What is collected agrees with the replay of the log. -/
structure Replayed (s : Simulation) (p : Progress) : Prop where
  reached : s.rule.reach 0.0 s.bodies p.log.reverse = (p.clock.now.seconds, p.bodies)
  log_eq : p.log.reverse = (s.replayed p.log.reverse).map StepView.logEntry
  events_eq : p.events.reverse = (s.replayed p.log.reverse).flatMap StepView.events

theorem seconds_start : Instant.start.seconds = 0.0 := by decide

theorem replayed_start :
    s.Replayed (s.sampled { clock := .ofSettings s.settings, bodies := s.bodies }) where
  reached := congrArg (·, s.bodies) seconds_start.symm
  log_eq := rfl
  events_eq := rfl

/-- The step that is taken is what its log entry is replayed to. -/
theorem Replayed.replayed_moved (h : s.Replayed p) :
    s.replayed (s.moved p).log.reverse = s.replayed p.log.reverse ++ [s.view p] := by
  rw [moved, List.reverse_cons, replayed, Rule.replay_append, h.reached]
  rfl

theorem Replayed.moved (h : s.Replayed p) : s.Replayed (s.moved p) where
  reached := by
    rw [Simulation.moved, List.reverse_cons, Rule.reach_append, h.reached]
    rfl
  log_eq := by
    rw [h.replayed_moved, List.map_append, ← h.log_eq]
    exact List.reverse_cons
  events_eq := by
    rw [h.replayed_moved, List.flatMap_append, ← h.events_eq, Simulation.moved, List.reverse_append,
      List.reverse_reverse, List.flatMap_singleton]

/-- The replay of the log says nothing about rejected attempts. -/
theorem Replayed.attempted (h : s.Replayed p) (hattempted : s.Attempted p p') : s.Replayed p' := by
  cases hattempted with
  | rejected message hclock hbad =>
    exact ⟨by rw [h.reached, Clock.now_reject hclock], h.log_eq, h.events_eq⟩
  | passed => exact h.moved
  | recorded => exact ⟨h.moved.reached, h.moved.log_eq, h.moved.events_eq⟩

/-! ### Samples -/

/-- A sample is recorded after every so many steps, and at the end. -/
def isRecorded (s : Simulation) (p : Progress) (i : Nat) : Bool :=
  i % s.stride == 0 || (i == p.log.length && s.isOver p)

/-- The samples are those of the replay of the log at the places to record. -/
structure Sampled (s : Simulation) (p : Progress) : Prop where
  samples_eq : p.samples.reverse = picked (s.isRecorded p) (s.moments p.log.reverse)
  unrecorded_eq : ¬ s.isOver p = true → p.unrecorded = p.log.length % s.stride

theorem sampled_start :
    s.Sampled (s.sampled { clock := .ofSettings s.settings, bodies := s.bodies }) where
  samples_eq := by
    have hfirst : s.isRecorded (s.sampled { clock := .ofSettings s.settings, bodies := s.bodies })
        0 = true := by
      simp [isRecorded]
    refine Eq.trans ?_ (picked_singleton hfirst).symm
    rw [← seconds_start]
    rfl
  unrecorded_eq := fun _ => (Nat.zero_mod _).symm

theorem Replayed.moments_moved (h : s.Replayed p) :
    s.moments (s.moved p).log.reverse = s.moments p.log.reverse ++ [s.sampleNow (s.moved p)] := by
  rw [moments, h.replayed_moved, List.map_append]
  rfl

theorem length_moments {log : List LogEntry} : (s.moments log).length = log.length + 1 := by
  rw [moments, List.length_cons, List.length_map, replayed, Rule.length_replay]

/-- Before the end, what is picked after a step is what was picked before, and the new sample if its
place is to be recorded. -/
theorem Replayed.picked_moved (h : s.Replayed p) (hover : ¬ s.isOver p = true) :
    picked (s.isRecorded (s.moved p)) (s.moments (s.moved p).log.reverse) =
      picked (s.isRecorded p) (s.moments p.log.reverse) ++
        if s.isRecorded (s.moved p) (p.log.length + 1) then [s.sampleNow (s.moved p)] else [] := by
  have hlength : (s.moments p.log.reverse).length = p.log.length + 1 := by
    rw [length_moments, List.length_reverse]
  have hold : ∀ i < (s.moments p.log.reverse).length,
      s.isRecorded (s.moved p) i = s.isRecorded p i := by
    intro i hi
    have hne : (i == (s.moved p).log.length) = false := by
      rw [beq_eq_false_iff_ne, Simulation.moved, List.length_cons]
      omega
    rw [isRecorded, isRecorded, hne, Bool.eq_false_iff.2 hover, Bool.false_and, Bool.and_false]
  rw [h.moments_moved, picked_append hold, hlength]

theorem stride_pos : 0 < s.stride := Nat.lt_of_lt_of_le Nat.one_pos (Nat.le_max_left _ _)

theorem Sampled.unrecorded_moved (h : s.Sampled p) (hover : ¬ s.isOver p = true) :
    (s.moved p).unrecorded = p.log.length % s.stride + 1 :=
  congrArg (· + 1) (h.unrecorded_eq hover)

/-- The place after a step is to be recorded exactly if so many steps are unrecorded, or the end is
reached. -/
theorem Sampled.isRecorded_moved (h : s.Sampled p) (hover : ¬ s.isOver p = true) :
    s.isRecorded (s.moved p) (p.log.length + 1) = true ↔
      (s.moved p).unrecorded = s.stride ∨ s.isOver (s.moved p) = true := by
  have hlength : (s.moved p).log.length = p.log.length + 1 := rfl
  rw [isRecorded, hlength, h.unrecorded_moved hover]
  rcases mod_succ_cases (n := p.log.length) s.stride_pos with ⟨hfull, hmod⟩ | ⟨hfull, hmod⟩
  · simp [hfull, hmod]
  · simp [hfull, hmod]

/-- A rejected attempt leaves the time, and with it whether the end is reached. -/
theorem Sampled.rejected {clock : Clock} {messages : List String} (h : s.Sampled p)
    (hover : ¬ s.isOver p = true) (hclock : p.clock.reject = .ok clock) :
    s.Sampled { p with clock, messages } where
  samples_eq := by
    have hsame : s.isOver { p with clock, messages } = s.isOver p := by
      rw [isOver, isOver, Clock.now_reject hclock]
    have hkeep : s.isRecorded { p with clock, messages } = s.isRecorded p := by
      funext i
      rw [isRecorded, isRecorded, hsame]
    rw [hkeep]
    exact h.samples_eq
  unrecorded_eq := fun _ => h.unrecorded_eq hover

theorem Sampled.passed (h : s.Sampled p) (hreplayed : s.Replayed p) (hover : ¬ s.isOver p = true)
    (hstride : (s.moved p).unrecorded ≠ s.stride) (hnot : ¬ s.isOver (s.moved p) = true) :
    s.Sampled (s.moved p) where
  samples_eq := by
    have hplace : ¬ s.isRecorded (s.moved p) (p.log.length + 1) = true := fun hrecorded =>
      ((h.isRecorded_moved hover).1 hrecorded).elim hstride hnot
    rw [hreplayed.picked_moved hover, if_neg hplace, List.append_nil]
    exact h.samples_eq
  unrecorded_eq := by
    intro _
    have hcount := h.unrecorded_moved hover
    rcases mod_succ_cases (n := p.log.length) s.stride_pos with ⟨hfull, -⟩ | ⟨-, hmod⟩
    · exact absurd (hcount.trans hfull) hstride
    · exact hcount.trans hmod.symm

theorem Sampled.recorded (h : s.Sampled p) (hreplayed : s.Replayed p) (hover : ¬ s.isOver p = true)
    (hrecord : (s.moved p).unrecorded = s.stride ∨ s.isOver (s.moved p) = true) :
    s.Sampled (s.sampled (s.moved p)) where
  samples_eq := by
    have hpicked := hreplayed.picked_moved hover
    rw [if_pos ((h.isRecorded_moved hover).2 hrecord), ← h.samples_eq] at hpicked
    exact List.reverse_cons.trans hpicked.symm
  unrecorded_eq := by
    -- If the end is not reached, the stride was, and counting starts again.
    intro hnot
    have hcount := h.unrecorded_moved hover
    rcases mod_succ_cases (n := p.log.length) s.stride_pos with ⟨-, hmod⟩ | ⟨hfull, -⟩
    · exact hmod.symm
    · exact absurd (hcount.symm.trans (hrecord.resolve_right hnot)) hfull

theorem Sampled.attempted (h : s.Sampled p) (hreplayed : s.Replayed p)
    (hover : ¬ s.isOver p = true) (hattempted : s.Attempted p p') : s.Sampled p' := by
  cases hattempted with
  | rejected _ hclock => exact h.rejected hover hclock
  | passed _ hstride hnot => exact h.passed hreplayed hover hstride hnot
  | recorded _ hrecord => exact h.recorded hreplayed hover hrecord

/-! ## §4 Whole runs -/

/-- The log of a run determines the run: it is the log of its own replay, its events are those of
the replayed steps, and its samples are those of the replayed states at every so many steps and at
the end.  A rejected attempt changes neither the time nor anything that is collected, but for the
messages. -/
theorem run_eq_replay {m : Model} {settings : SimulationSettings} {s : Simulation}
    {cancelAfter : Option Nat} {result : Run} (hprepare : prepare m settings = .ok s)
    (hrun : s.run cancelAfter = .ok result) :
    let r := Rule.ofModel m
    let bodies := m.entities.map (Body.ofEntity m)
    let steps := r.replay 0.0 bodies result.log
    result.log = steps.map StepView.logEntry ∧
    result.events = steps.flatMap StepView.events ∧
    result.series =
      picked (fun i => i % max 1 settings.outputStride == 0 || i == result.log.length)
        (.of 0.0 bodies (r.energy bodies) :: steps.map StepView.sample) ∧
    ∀ p taken p', reject p taken = .ok p' →
      p'.clock.now = p.clock.now ∧
        p' = { p with clock := p'.clock, messages := p'.messages } := by
  have hs : s = ⟨settings, .ofModel m, m.entities.map (Body.ofEntity m)⟩ := by
    unfold prepare at hprepare
    cases hcheck : settings.check with
    | error f => simp [hcheck, Except.map] at hprepare
    | ok _ =>
      rw [hcheck] at hprepare
      exact (Except.ok.inj hprepare).symm
  obtain ⟨p, ⟨hreplayed, hsampled⟩, hover, rfl⟩ :=
    run_induction (P := fun p => s.Replayed p ∧ s.Sampled p) ⟨replayed_start, sampled_start⟩
      (fun _ _ hover hp hattempted =>
        ⟨hp.1.attempted hattempted, hp.2.attempted hp.1 hover hattempted⟩) hrun
  subst hs
  refine ⟨hreplayed.log_eq, hreplayed.events_eq, ?_, fun p taken p' hreject => ?_⟩
  · have hkeep : isRecorded ⟨settings, .ofModel m, m.entities.map (Body.ofEntity m)⟩ p =
        fun i => i % max 1 settings.outputStride == 0 || i == p.log.reverse.length := by
      funext i
      rw [isRecorded, hover, Bool.and_true, List.length_reverse]
      rfl
    exact hkeep ▸ hsampled.samples_eq
  · obtain ⟨clock, message, hclock, rfl⟩ := reject_eq_ok hreject
    exact ⟨Clock.now_reject hclock, rfl⟩

/-- A spring with a body at the limits of the numbers, where a full step overflows. -/
def fastSpring : Model where
  entities := [
    { id := "bob", position := ⟨1e308, 0.0, 0.0⟩, velocity := ⟨-1e308, 0.0, 0.0⟩, mass := 10.0 }]
  modules := [{ id := "spring", name := "Spring", domain := .oscillation }]

/-- Fixed steps that can be halved, and every second one recorded. -/
def fastSettings : SimulationSettings where
  duration := 1.5
  timeStep := 1.0
  adaptive := false
  outputStride := 2
  maxIterations := 10
  minSuccessRatio := 0.5

/-- The first attempt is rejected, and the log is still that of its own replay. -/
theorem run_fastSpring :
    ∃ s result, prepare fastSpring fastSettings = .ok s ∧ s.run none = .ok result ∧
      result.statistics.failedSteps = 1 ∧ result.log.map LogEntry.time = [0.5, 1.0, 1.5] ∧
      result.series.map Sample.time = [0.0, 1.0, 1.5] ∧
      result.log = ((Rule.ofModel fastSpring).replay 0.0
        (fastSpring.entities.map (Body.ofEntity fastSpring)) result.log).map StepView.logEntry := by
  let s : Simulation :=
    ⟨fastSettings, .ofModel fastSpring, fastSpring.entities.map (Body.ofEntity fastSpring)⟩
  have hcheck : fastSettings.check = .ok () := by rfl
  have hprepare : prepare fastSpring fastSettings = .ok s := by
    rw [prepare, hcheck]
    rfl
  have hfigures : ((s.run none).toOption.map fun r => (r.statistics.failedSteps,
      r.log.map LogEntry.time, r.series.map Sample.time)) =
      some (1, [0.5, 1.0, 1.5], [0.0, 1.0, 1.5]) := by decide +kernel
  cases hrun : s.run none with
  | error f =>
    rw [hrun] at hfigures
    cases hfigures
  | ok result =>
    rw [hrun] at hfigures
    simp only [Except.toOption, Option.map_some, Option.some.injEq, Prod.mk.injEq] at hfigures
    obtain ⟨hfailed, htimes, hsamples⟩ := hfigures
    exact ⟨s, result, hprepare, hrun, hfailed, htimes, hsamples, (run_eq_replay hprepare hrun).1⟩

end Simulation

end PhysicsLab
