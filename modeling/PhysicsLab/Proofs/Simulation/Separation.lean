import PhysicsLab.Proofs.Simulation.Trajectory

/-!
# Bodies do not act on each other

A rule moves every body on its own, and a clock with a fixed step does not look at what the bodies
do.  What bodies share is only the attempt: one of them can spoil it for all.  So as long as no
attempt fails, a body moves the same way whichever other bodies are simulated with it.

## Main definitions

* `Simulation.keeping` — a simulation of some of the bodies
* `Simulation.Keeps` — a progress shows some of the bodies of another one

## Main statements

* `sublist_iff_exists_picked` — some of the entries of a list, in order
* `Simulation.Keeps.attempt`, `Simulation.Keeps.advance`
* `Simulation.run_of_sublist`
-/

namespace PhysicsLab

/-! ## §1 Some of the entries of a list -/

section Picked

variable {α β : Type} {keep : Nat → Bool} {xs ys : List α}

theorem picked_cons {x : α} :
    picked keep (x :: xs) =
      if keep 0 then x :: picked (fun i => keep (i + 1)) xs
      else picked (fun i => keep (i + 1)) xs := by
  -- The places of the rest are those in the rest alone, moved by one.
  have hrest : ((xs.zipIdx 1).filter fun y => keep y.2).map Prod.fst =
      picked (fun i => keep (i + 1)) xs := by
    rw [picked, List.zipIdx_succ, List.filter_map, List.map_map]
    rfl
  rw [← hrest, picked, List.zipIdx_cons, List.filter_cons]
  split <;> rfl

theorem picked_map {f : α → β} : picked keep (xs.map f) = (picked keep xs).map f := by
  induction xs generalizing keep with
  | nil => rfl
  | cons x xs ih =>
    rw [List.map_cons, picked_cons, picked_cons, ih]
    split <;> rfl

theorem picked_sublist (keep : Nat → Bool) (xs : List α) : (picked keep xs).Sublist xs := by
  have h : (picked keep xs).Sublist (xs.zipIdx.map Prod.fst) := List.filter_sublist.map Prod.fst
  rwa [List.zipIdx_map_fst] at h

/-- What is picked from a list is what is left of it when some entries are dropped. -/
theorem sublist_iff_exists_picked : ys.Sublist xs ↔ ∃ keep, picked keep xs = ys := by
  constructor
  · intro h
    induction h with
    | slnil => exact ⟨fun _ => true, rfl⟩
    | @cons ys xs x _ ih =>
      obtain ⟨keep, hkeep⟩ := ih
      refine ⟨fun i => i != 0 && keep (i - 1), ?_⟩
      rw [picked_cons]
      simpa using hkeep
    | @cons_cons ys xs x _ ih =>
      obtain ⟨keep, hkeep⟩ := ih
      refine ⟨fun i => i == 0 || keep (i - 1), ?_⟩
      rw [picked_cons]
      simpa using hkeep
  · rintro ⟨keep, rfl⟩
    exact picked_sublist keep xs

end Picked

/-! ## §2 Rules and clocks -/

theorem Rule.advance_picked {r : Rule} {keep : Nat → Bool} {bodies : List Body} {time dt : Float} :
    r.advance (picked keep bodies) time dt = picked keep (r.advance bodies time dt) :=
  picked_map.symm

/-- A fixed step does not follow the error. -/
theorem Clock.accept_of_fixed {c : Clock} {taken : Nat} {error : Float}
    (h : c.adaptive = false) : c.accept taken error = c.advance taken := by
  have hadapt : c.adapt error = (c.step, .unchanged) := by simp [Clock.adapt, h]
  rw [Clock.accept, hadapt]
  rfl

theorem Clock.failed_reject {c c' : Clock} (h : c.reject = .ok c') : c'.failed = c.failed + 1 := by
  obtain ⟨-, rfl⟩ := Clock.reject_eq_ok_iff.1 h
  rfl

/-- Whether a sample comes late enough is seen from the times alone. -/
theorem Series.follows_of_times {last last' : Option Sample} {x x' : Sample}
    (hlast : last'.map Sample.time = last.map Sample.time) (hx : x'.time = x.time)
    (h : Series.follows last x = .ok ()) : Series.follows last' x' = .ok () := by
  cases last with
  | none =>
    obtain rfl : last' = none := Option.map_eq_none_iff.1 hlast
    rfl
  | some l =>
    obtain ⟨l', rfl, hl⟩ := Option.map_eq_some_iff.1 hlast
    unfold Series.follows at h ⊢
    dsimp only at h ⊢
    rw [hl, hx]
    split at h
    · next hlater => rw [if_pos hlater]
    · cases h

/-! ## §3 Steps -/

namespace Simulation

variable {s : Simulation} {p p' q last : Progress} {keep : Nat → Bool} {cancelAfter : Option Nat}

/-- The simulation of the bodies at some places. -/
def keeping (s : Simulation) (keep : Nat → Bool) : Simulation :=
  { s with bodies := picked keep s.bodies }

/-- When a sample was recorded, and its bodies at some places. -/
def stateAt (keep : Nat → Bool) (x : Sample) : Float × List Body := (x.time, picked keep x.bodies)

/-- When a logged step ends, and its size. -/
def paceOf (e : LogEntry) : Float × Float := (e.time, e.step)

/-- A progress `q` shows the bodies at some places of a progress `p`, at the same times. -/
structure Keeps (keep : Nat → Bool) (p q : Progress) : Prop where
  clock_eq : q.clock = p.clock
  bodies_eq : q.bodies = picked keep p.bodies
  samples_eq : q.samples.map (fun x => (x.time, x.bodies)) = p.samples.map (stateAt keep)
  log_eq : q.log.map paceOf = p.log.map paceOf
  unrecorded_eq : q.unrecorded = p.unrecorded

namespace Keeps

theorem isOver_eq (h : Keeps keep p q) : (s.keeping keep).isOver q = s.isOver p := by
  show decide (s.finish.nanos ≤ q.clock.now.nanos) = decide (s.finish.nanos ≤ p.clock.now.nanos)
  rw [h.clock_eq]

theorem taken_eq (h : Keeps keep p q) : (s.keeping keep).taken q = s.taken p := by
  show q.clock.nextStep s.finish = p.clock.nextStep s.finish
  rw [h.clock_eq]

theorem next_eq (h : Keeps keep p q) : (s.keeping keep).next q = picked keep (s.next p) := by
  rw [next, h.taken_eq, h.bodies_eq, h.clock_eq]
  exact Rule.advance_picked

/-- With a fixed step the clock does not see which bodies there are. -/
theorem nextClock_eq (h : Keeps keep p q) (hfixed : p.clock.adaptive = false) :
    (s.keeping keep).nextClock q = s.nextClock p := by
  have hfixed' : q.clock.adaptive = false := by rw [h.clock_eq, hfixed]
  rw [nextClock, nextClock, Clock.accept_of_fixed hfixed', Clock.accept_of_fixed hfixed,
    h.clock_eq, h.taken_eq]

theorem moved (h : Keeps keep p q) (hfixed : p.clock.adaptive = false) :
    Keeps keep (s.moved p) ((s.keeping keep).moved q) where
  clock_eq := h.nextClock_eq hfixed
  bodies_eq := h.next_eq
  samples_eq := h.samples_eq
  log_eq := by
    have hentry : paceOf ((s.keeping keep).view q).logEntry = paceOf (s.view p).logEntry := by
      show (((s.keeping keep).nextClock q).now.seconds,
          Instant.secondsOf ((s.keeping keep).taken q)) =
        ((s.nextClock p).now.seconds, Instant.secondsOf (s.taken p))
      rw [h.nextClock_eq hfixed, h.taken_eq]
    exact List.cons_eq_cons.2 ⟨hentry, h.log_eq⟩
  unrecorded_eq := congrArg (· + 1) h.unrecorded_eq

theorem sampled (h : Keeps keep p q) : Keeps keep (s.sampled p) ((s.keeping keep).sampled q) where
  clock_eq := h.clock_eq
  bodies_eq := h.bodies_eq
  samples_eq := by
    have hsample : (((s.keeping keep).sampleNow q).time, ((s.keeping keep).sampleNow q).bodies) =
        stateAt keep (s.sampleNow p) := by
      show (q.clock.now.seconds, q.bodies) = (p.clock.now.seconds, picked keep p.bodies)
      rw [h.clock_eq, h.bodies_eq]
    exact List.cons_eq_cons.2 ⟨hsample, h.samples_eq⟩
  log_eq := h.log_eq
  unrecorded_eq := rfl

theorem record (h : Keeps keep p q) (hrecord : s.record p = .ok p') :
    ∃ q', (s.keeping keep).record q = .ok q' ∧ Keeps keep p' q' := by
  obtain rfl := record_eq_ok hrecord
  refine ⟨(s.keeping keep).sampled q, ?_, h.sampled⟩
  -- The new sample and the last one are as late as those of the other progress.
  have hnow : ((s.keeping keep).sampleNow q).time = (s.sampleNow p).time := by
    show q.clock.now.seconds = p.clock.now.seconds
    rw [h.clock_eq]
  have hlast : q.samples.head?.map Sample.time = p.samples.head?.map Sample.time := by
    have htimes : q.samples.map Sample.time = p.samples.map Sample.time := by
      simpa [Function.comp_def, stateAt] using congrArg (List.map Prod.fst) h.samples_eq
    rw [← List.head?_map, ← List.head?_map, htimes]
  have hfollows : Series.follows p.samples.head? (s.sampleNow p) = .ok () := by
    cases hresult : Series.follows p.samples.head? (s.sampleNow p) with
    | ok _ => rfl
    | error f =>
      have herror : s.record p = .error f := by
        show (Series.follows p.samples.head? (s.sampleNow p)).map _ = _
        rw [hresult]
        rfl
      rw [herror] at hrecord
      cases hrecord
  show (Series.follows q.samples.head? ((s.keeping keep).sampleNow q)).map _ = _
  rw [Series.follows_of_times hlast hnow hfollows]
  rfl

/-- An attempt that succeeds with all bodies succeeds with some of them, and moves them alike. -/
theorem attempt (h : Keeps keep p q) (hfixed : p.clock.adaptive = false)
    (hattempt : s.attempt p = .ok p') (hclean : p'.clock.failed = 0) :
    ∃ q', (s.keeping keep).attempt q = .ok q' ∧ Keeps keep p' q' := by
  by_cases hfinite : (s.next p).all Body.isFinite = true
  · have hfinite' : ((s.keeping keep).next q).all Body.isFinite = true := by
      rw [List.all_eq_true] at hfinite ⊢
      rw [h.next_eq]
      intro b hb
      exact hfinite b ((picked_sublist keep _).subset hb)
    have hp : s.attempt p = if (s.moved p).unrecorded = s.stride ∨ s.isOver (s.moved p) = true then
        s.record (s.moved p) else .ok (s.moved p) := if_pos hfinite
    have hq : (s.keeping keep).attempt q =
        if ((s.keeping keep).moved q).unrecorded = s.stride ∨
            (s.keeping keep).isOver ((s.keeping keep).moved q) = true then
          (s.keeping keep).record ((s.keeping keep).moved q)
        else .ok ((s.keeping keep).moved q) := if_pos hfinite'
    have hmoved := h.moved (s := s) hfixed
    rw [hmoved.unrecorded_eq, hmoved.isOver_eq] at hq
    rw [hp] at hattempt
    rw [hq]
    split at hattempt
    · next hdue =>
      rw [if_pos hdue]
      exact hmoved.record hattempt
    · next hdue =>
      rw [if_neg hdue]
      obtain rfl := Except.ok.inj hattempt
      exact ⟨_, rfl, hmoved⟩
  · -- A rejected attempt would be counted.
    have hreject : reject p (s.taken p) = .ok p' := by
      rw [← hattempt]
      exact (if_neg hfinite).symm
    obtain ⟨clock, _, hclock, rfl⟩ := reject_eq_ok hreject
    have hcount : clock.failed = p.clock.failed + 1 := Clock.failed_reject hclock
    exact absurd (hcount.symm.trans hclean) (Nat.succ_ne_zero _)

end Keeps

/-! ## §4 Runs -/

theorem adaptive_attempted (h : s.Attempted p p') : p'.clock.adaptive = p.clock.adaptive := by
  cases h with
  | rejected _ hclock =>
    obtain ⟨-, rfl⟩ := Clock.reject_eq_ok_iff.1 hclock
    rfl
  | passed => rfl
  | recorded => rfl

theorem failed_attempted (h : s.Attempted p p') : p.clock.failed ≤ p'.clock.failed := by
  cases h with
  | rejected _ hclock => exact Nat.le_of_lt (Nat.lt_of_lt_of_eq (Nat.lt_succ_self _)
      (Clock.failed_reject hclock).symm)
  | passed => exact Nat.le_refl _
  | recorded => exact Nat.le_refl _

theorem failed_advance {left : Nat} (h : s.advance cancelAfter left p = .ok last) :
    p.clock.failed ≤ last.clock.failed := by
  have hstep (r r' : Progress) (_ : ¬ s.isOver r = true) (hr : p.clock.failed ≤ r.clock.failed)
      (hattempted : s.Attempted r r') : p.clock.failed ≤ r'.clock.failed :=
    Nat.le_trans hr (failed_attempted hattempted)
  exact (advance_induction hstep (Nat.le_refl _) h).1

/-- A loop that ends without a failed attempt ends alike with some of the bodies. -/
theorem Keeps.advance {left : Nat} (h : Keeps keep p q) (hfixed : p.clock.adaptive = false)
    (hp : s.advance cancelAfter left p = .ok last) (hclean : last.clock.failed = 0) :
    ∃ last', (s.keeping keep).advance cancelAfter left q = .ok last' ∧ Keeps keep last last' := by
  induction left generalizing p q with
  | zero =>
    unfold Simulation.advance at hp ⊢
    rw [h.isOver_eq]
    split at hp
    · next hover =>
      obtain rfl := Except.ok.inj hp
      exact ⟨q, if_pos hover, h⟩
    · split at hp <;> cases hp
  | succ left ih =>
    -- Both loops look at the same clock to see whether they are over or cancelled.
    have hcancel : isCancelled cancelAfter q = isCancelled cancelAfter p := by
      rw [isCancelled, isCancelled, h.clock_eq]
    unfold Simulation.advance at hp ⊢
    rw [h.isOver_eq, hcancel]
    split at hp
    · next hover =>
      obtain rfl := Except.ok.inj hp
      exact ⟨q, if_pos hover, h⟩
    · next hover =>
      rw [if_neg hover]
      split at hp
      · cases hp
      · next hgo =>
        rw [if_neg hgo]
        split at hp
        · next next hattempt =>
          have hnext : next.clock.failed = 0 :=
            Nat.eq_zero_of_le_zero (Nat.le_trans (failed_advance hp) (Nat.le_of_eq hclean))
          obtain ⟨next', hattempt', hkeeps⟩ := h.attempt hfixed hattempt hnext
          rw [hattempt']
          exact ih hkeeps ((adaptive_attempted (attempted hattempt)).trans hfixed) hp
        · cases hp

theorem keeps_begun : Keeps keep s.begun (s.keeping keep).begun := by
  have hfirst : Keeps keep { clock := .ofSettings s.settings, bodies := s.bodies }
      { clock := .ofSettings s.settings, bodies := picked keep s.bodies } :=
    ⟨rfl, rfl, rfl, rfl, rfl⟩
  exact hfirst.sampled (s := s)

/-- What a run with some of the bodies shows, if a run with all of them has a fixed step and no
failed attempt. -/
theorem run_keeping (keep : Nat → Bool) {result : Run} (hfixed : s.settings.adaptive = false)
    (hrun : s.run cancelAfter = .ok result) (hclean : result.statistics.failedSteps = 0) :
    ∃ result', (s.keeping keep).run cancelAfter = .ok result' ∧
      result'.statistics = result.statistics ∧ result'.log.map paceOf = result.log.map paceOf ∧
      result'.series.map (fun x => (x.time, x.bodies)) = result.series.map (stateAt keep) := by
  obtain ⟨last, hlast, rfl⟩ := run_eq_ok hrun
  obtain ⟨last', hlast', hkeeps⟩ := keeps_begun.advance hfixed hlast hclean
  refine ⟨(s.keeping keep).result last', ?_, ?_, ?_, ?_⟩
  · have hrun' : (s.keeping keep).run cancelAfter =
        ((s.keeping keep).advance cancelAfter s.settings.maxIterations (s.keeping keep).begun).map
          (s.keeping keep).result := rfl
    rw [hrun', hlast']
    rfl
  · show s.statistics last'.clock = s.statistics last.clock
    rw [hkeeps.clock_eq]
  · show last'.log.reverse.map paceOf = last.log.reverse.map paceOf
    rw [List.map_reverse, List.map_reverse, hkeeps.log_eq]
  · show last'.samples.reverse.map _ = last.samples.reverse.map _
    rw [List.map_reverse, List.map_reverse, hkeeps.samples_eq]

/-- A run with a fixed step in which no attempt fails does the same with some of the bodies: it
ends, after the same steps, with samples of the same times, in which the bodies that are left are
as they were among all. -/
theorem run_of_sublist {m : Model} {settings : SimulationSettings} {kept : List Entity}
    {result : Run} (hkept : kept.Sublist m.entities) (hfixed : settings.adaptive = false)
    (hprepare : prepare m settings = .ok s) (hrun : s.run cancelAfter = .ok result)
    (hclean : result.statistics.failedSteps = 0) :
    ∃ s' result', prepare { m with entities := kept } settings = .ok s' ∧
      s'.run cancelAfter = .ok result' ∧
      result'.statistics = result.statistics ∧ result'.statistics.failedSteps = 0 ∧
      result'.log.map (fun e => (e.time, e.step)) = result.log.map (fun e => (e.time, e.step)) ∧
      result'.series.map Sample.time = result.series.map Sample.time ∧
      (∃ keep, picked keep m.entities = kept) ∧
      ∀ keep, picked keep m.entities = kept →
        result'.series.map Sample.bodies = result.series.map fun x => picked keep x.bodies := by
  obtain ⟨hcheck, rfl⟩ := prepare_eq_ok hprepare
  obtain ⟨keep, hkeep⟩ := sublist_iff_exists_picked.1 hkept
  -- Neither the rule nor the state that a body starts from depends on the other bodies.
  have hsame (keep' : Nat → Bool) (h : picked keep' m.entities = kept) :
      keeping ⟨settings, .ofModel m, m.entities.map (Body.ofEntity m)⟩ keep' =
        ⟨settings, .ofModel { m with entities := kept },
          kept.map (Body.ofEntity { m with entities := kept })⟩ := by
    rw [keeping, picked_map, h]
    rfl
  obtain ⟨result', hrun', hstatistics, hlog, hseries⟩ := run_keeping keep hfixed hrun hclean
  refine ⟨_, result', prepare_eq_of_check hcheck, hsame keep hkeep ▸ hrun', hstatistics,
    hstatistics ▸ hclean, hlog, ?_, ⟨keep, hkeep⟩, fun keep' hkeep' => ?_⟩
  · simpa [Function.comp_def, stateAt] using congrArg (List.map Prod.fst) hseries
  · obtain ⟨result'', hrun'', -, -, hseries'⟩ := run_keeping keep' hfixed hrun hclean
    rw [hsame keep' hkeep', ← hsame keep hkeep, hrun'] at hrun''
    obtain rfl := Except.ok.inj hrun''
    simpa [Function.comp_def, stateAt] using congrArg (List.map Prod.snd) hseries'

/-- Three bodies above the ground, one of which reaches it. -/
def fallingBodies : Model where
  entities := [
    { id := "stone", position := ⟨0.0, 1.0, 0.0⟩ },
    { id := "ball", position := ⟨0.0, 20.0, 0.0⟩, velocity := ⟨3.0, 0.0, 0.0⟩ },
    { id := "feather", position := ⟨1.0, 8.0, 0.0⟩, mass := 0.001 }]

/-- Four equal steps, every second one recorded. -/
def evenSettings : SimulationSettings where
  duration := 1.0
  timeStep := 0.25
  adaptive := false
  outputStride := 2

/-- The stone and the feather fall without the ball as they do beside it. -/
theorem run_fallingBodies :
    ∃ s result s' result',
      prepare fallingBodies evenSettings = .ok s ∧ s.run none = .ok result ∧
      result.statistics.failedSteps = 0 ∧
      prepare { fallingBodies with entities := picked (· != 1) fallingBodies.entities }
        evenSettings = .ok s' ∧ s'.run none = .ok result' ∧
      result'.series.map Sample.time = [0.0, 0.5, 1.0] ∧
      result'.series.map Sample.bodies =
        result.series.map fun x => picked (· != 1) x.bodies := by
  have hprepare : prepare fallingBodies evenSettings = .ok
      ⟨evenSettings, .ofModel fallingBodies,
        fallingBodies.entities.map (Body.ofEntity fallingBodies)⟩ := prepare_eq_of_check rfl
  have hfigures : ((run ⟨evenSettings, .ofModel fallingBodies,
      fallingBodies.entities.map (Body.ofEntity fallingBodies)⟩ none).toOption.map fun r =>
        (r.statistics.failedSteps, r.series.map Sample.time)) =
      some (0, [0.0, 0.5, 1.0]) := by decide +kernel
  obtain ⟨result, hrun, hfigures⟩ := exists_of_toOption_map hfigures
  obtain ⟨hclean, htimes⟩ := Prod.mk.inj hfigures
  obtain ⟨s', result', hprepare', hrun', -, -, -, htimes', -, hbodies⟩ :=
    run_of_sublist (picked_sublist (· != 1) _) rfl hprepare hrun hclean
  exact ⟨_, result, s', result', hprepare, hrun, hclean, hprepare', hrun', htimes'.trans htimes,
    hbodies _ rfl⟩

end Simulation

end PhysicsLab
