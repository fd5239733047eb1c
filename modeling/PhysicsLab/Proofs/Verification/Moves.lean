import PhysicsLab.Proofs.Number.Fraction
import PhysicsLab.Proofs.Verification.Pairing

/-!
# Moves within their bound

Verification looks at the moves of bodies twice.  It reports those that go beyond the bound, and it
works out the part of those that stay within it as a figure of the quality of the data.  Both follow
the same bodies, so what is reported is what is missing from the whole, as long as samples follow
one another in time and moves and bounds are numbers.

The time between two samples is a difference of doubles.  It is above zero for all finite times of
which one is later, since a difference is never rounded to zero.

## Main definitions

* `Measured` — moves and bounds between two samples are numbers
* `moves` — for each move, whether it stays within the bound

## Main statements

* `causalityViolations_eq_flatMap` — of samples in order only moves are reported
* `length_causalityViolations`
* `causalityViolations_spec`
-/

namespace PhysicsLab.Verification

open PhysicsLab.Number

variable {factor : Float} {samples : List Sample} {s u : Sample}

/-! ## §1 Two samples -/

/-- The moves from one sample to another, and whether they stay within the bound. -/
def movesBetween (factor : Float) (s u : Sample) : List Bool :=
  (matched s u).map fun q =>
    decide (displacement q.1 q.2 ≤ displacementBound factor (u.time - s.time) q.1 q.2)

/-- The moves and bounds from one sample to another are numbers. -/
def Measured (factor : Float) (s u : Sample) : Prop :=
  ∀ q ∈ matched s u, (displacement q.1 q.2).isNaN = false ∧
    (displacementBound factor (u.time - s.time) q.1 q.2).isNaN = false

instance (factor : Float) (s u : Sample) : Decidable (Measured factor s u) :=
  inferInstanceAs (Decidable (∀ q ∈ matched s u, _))

/-- A move is reported exactly if it does not stay within the bound. -/
theorem length_farMoves (h : Measured factor s u) :
    (farMoves factor s u).length = (movesBetween factor s u).count false := by
  rw [farMoves_eq_matched, List.length_filterMap_eq_countP, movesBetween, List.count_eq_countP,
    List.countP_map]
  refine List.countP_congr fun q hq => ?_
  obtain ⟨hmoved, hbound⟩ := h q hq
  -- What is reported is above the bound, and what counts as good is at most the bound.
  rw [Function.comp_apply, beq_false, Bool.not_eq_true', decide_eq_false_iff_not,
    ← lt_iff_not_le hmoved hbound, farMove?]
  split <;> simp [*]

theorem length_movesBetween_le : (movesBetween factor s u).length ≤ s.bodies.length := by
  rw [movesBetween, List.length_map]
  exact List.length_filterMap_le _ _

/-! ## §2 Series -/

/-- The moves between neighbouring samples, and whether they stay within the bound. -/
def moves (factor : Float) (samples : List Sample) : List Bool :=
  (neighbours samples).flatMap fun p => movesBetween factor p.1 p.2

theorem continuity_eq_ratio (factor : Float) (samples : List Sample) : continuity factor samples =
    ratio ((moves factor samples).count true) (moves factor samples).length := rfl

theorem mem_of_mem_neighbours {p : Sample × Sample} (h : p ∈ neighbours samples) :
    p.1 ∈ samples ∧ p.2 ∈ samples := by
  obtain ⟨hfirst, hsecond⟩ := List.of_mem_zip h
  exact ⟨hfirst, List.mem_of_mem_tail hsecond⟩

/-- Of samples in order only moves are reported. -/
theorem causalityViolations_eq_flatMap
    (h : ∀ p ∈ neighbours samples, ¬ p.2.time - p.1.time ≤ 0.0) :
    causalityViolations factor samples =
      (neighbours samples).flatMap fun p => farMoves factor p.1 p.2 := by
  induction samples with
  | nil => rfl
  | cons s rest ih =>
    cases rest with
    | nil => rfl
    | cons u rest =>
      -- The first two samples are neighbours, and the others are those of the rest.
      have hpairs : neighbours (s :: u :: rest) = (s, u) :: neighbours (u :: rest) := rfl
      rw [hpairs, List.forall_mem_cons] at h
      rw [causalityViolations, if_neg h.1, hpairs, List.flatMap_cons, ih h.2]

theorem isDisorder_of_mem_farMoves {i : Issue} (h : i ∈ farMoves factor s u) :
    i.isDisorder = false := by
  rw [farMoves_eq_matched, List.mem_filterMap] at h
  obtain ⟨q, -, hfound⟩ := h
  rw [farMove?] at hfound
  split at hfound
  · cases hfound
    rfl
  · cases hfound

/-- Between finite times there is a time, if one is later. -/
theorem not_sub_le_of_lt (hs : s.time.isFinite = true) (hu : u.time.isFinite = true)
    (h : s.time < u.time) : ¬ u.time - s.time ≤ 0.0 := fun hle =>
  (not_lt_of_le hle).2 (sub_pos_of_lt hs hu h)

/-- There are no more moves than bodies in the samples. -/
theorem length_moves_le :
    (moves factor samples).length ≤ (samples.flatMap Sample.bodies).length := by
  induction samples with
  | nil => exact le_rfl
  | cons s rest ih =>
    cases rest with
    | nil => exact Nat.zero_le _
    | cons u rest =>
      have hpairs : moves factor (s :: u :: rest) =
          movesBetween factor s u ++ moves factor (u :: rest) := rfl
      rw [hpairs, List.flatMap_cons, List.length_append, List.length_append]
      exact Nat.add_le_add length_movesBetween_le ih

/-- As many moves are reported as do not stay within the bound. -/
theorem length_causalityViolations
    (horder : ∀ p ∈ neighbours samples, ¬ p.2.time - p.1.time ≤ 0.0)
    (hmeasured : ∀ p ∈ neighbours samples, Measured factor p.1 p.2) :
    (causalityViolations factor samples).length = (moves factor samples).count false := by
  rw [causalityViolations_eq_flatMap horder, moves, List.length_flatMap, List.count_flatMap]
  exact congrArg List.sum (List.map_congr_left fun p hp => length_farMoves (hmeasured p hp))

/-- All moves stay within the bound exactly if their part is one, as long as they can be counted. -/
theorem continuity_eq_one_iff (hsize : (samples.flatMap Sample.bodies).length < 2 ^ 53) :
    continuity factor samples = 1.0 ↔ (moves factor samples).count false = 0 := by
  -- Beyond 2⁵³ a part and the whole can be rounded to the same double.
  rw [continuity_eq_ratio, ratio_eq_one_iff List.count_le_length (length_moves_le.trans_lt hsize)]
  have hparts := List.count_true_add_count_false (moves factor samples)
  omega

theorem continuity_assess (t : Thresholds) (h : samples ≠ []) :
    (assess t samples).continuity = continuity t.causalityFactor samples := by
  cases samples with
  | nil => exact absurd rfl h
  | cons s rest => rfl

/-- The verification of a series and the quality of its data judge moves alike.  For finite times,
each later than the one before, and moves and bounds that are numbers, all issues of causality are
about moves; there are as many as moves that do not stay within the bound; and there is none exactly
if the part of the moves that do is one.

Doubles count up to 2⁵³, which is more bodies than fit into memory. -/
theorem causalityViolations_spec (t : Thresholds) (series : Series)
    (hfinite : ∀ s ∈ series, s.time.isFinite = true)
    (hlater : ∀ p ∈ neighbours series, p.1.time < p.2.time)
    (hmeasured : ∀ p ∈ neighbours series, Measured t.causalityFactor p.1 p.2) :
    let issues := causalityViolations t.causalityFactor series
    (∀ i ∈ issues, i.isDisorder = false) ∧
    issues.length = (moves t.causalityFactor series).count false ∧
    ((series.flatMap Sample.bodies).length < 2 ^ 53 →
      (continuity t.causalityFactor series = 1.0 ↔ issues = []) ∧
      (series ≠ [] → ((assess t series).continuity = 1.0 ↔ issues = []))) := by
  intro issues
  have horder : ∀ p ∈ neighbours series, ¬ p.2.time - p.1.time ≤ 0.0 := fun p hp =>
    not_sub_le_of_lt (hfinite _ (mem_of_mem_neighbours hp).1)
      (hfinite _ (mem_of_mem_neighbours hp).2) (hlater p hp)
  have hlength : issues.length = (moves t.causalityFactor series).count false :=
    length_causalityViolations horder hmeasured
  refine ⟨fun i hi => ?_, hlength, fun hsize => ?_⟩
  · rw [show issues = _ from causalityViolations_eq_flatMap horder, List.mem_flatMap] at hi
    obtain ⟨p, -, hi⟩ := hi
    exact isDisorder_of_mem_farMoves hi
  · have hnone : continuity t.causalityFactor series = 1.0 ↔ issues = [] := by
      rw [continuity_eq_one_iff hsize, ← hlength, List.length_eq_zero_iff]
    refine ⟨hnone, fun hsome => ?_⟩
    rw [continuity_assess t hsome]
    exact hnone

/-- Two bodies with one id, of which the first jumps to the place of the second; one body that
disappears, and one that appears. -/
def jumping : Series :=
  let near : Body := { id := "a" }
  let far : Body := { id := "a", position := ⟨5.0, 0.0, 0.0⟩ }
  [.of 0.0 [near, far, { id := "b" }] {}, .of 1.0 [far, { id := "c" }] {},
    .of 2.0 [{ id := "c" }, far] {}]

/-- One of the four moves is reported, so the part of the others is not one. -/
theorem causalityViolations_jumping :
    moves 2.0 jumping = [false, true, true, true] ∧
      (causalityViolations 2.0 jumping).length = 1 ∧ continuity 2.0 jumping ≠ 1.0 := by
  have hmoves : moves 2.0 jumping = [false, true, true, true] := by decide +kernel
  obtain ⟨-, hlength, hone⟩ := causalityViolations_spec {} jumping (by decide)
    (by decide) (by decide +kernel)
  have hissues : (causalityViolations 2.0 jumping).length = 1 := by
    rw [hlength, hmoves]
    rfl
  refine ⟨hmoves, hissues, fun hcontinuity => ?_⟩
  rw [((hone (by decide)).1).1 hcontinuity] at hissues
  cases hissues

end PhysicsLab.Verification
