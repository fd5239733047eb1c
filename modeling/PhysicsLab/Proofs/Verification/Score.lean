import PhysicsLab.Proofs.Number.Fraction
import PhysicsLab.Proofs.Settings
import PhysicsLab.Settings.Yaml
import PhysicsLab.Verification

/-!
# Scores

The score of a run starts from the part of the laws that hold.  For each kind of issue it is divided
by one plus the weighed number of issues.  Both the part and the quotients lie between zero and one,
and so does the score; without issues it is the part of the laws that hold.

This needs a number to divide by.  A weight has a lower end but no upper one, and infinity times no
issues is none: a run without an issue of a kind that weighs infinitely has no score at all, and is
not a success.

## Main definitions

* `Report.weighed` — how many issues there are of each kind, and how much they weigh

## Main statements

* `length_onePerKind_le` — no more laws are checked than there are quantities
* `score_cases` — a score is a fraction, unless a weight and a number of issues clash
* `score_verify`
-/

namespace PhysicsLab

open PhysicsLab.Number
open Float.Model (UnpackedFloat)

/-! ## §1 Laws -/

theorem nodup_kinds_addLaw {laws : List ConservationLaw}
    (h : (laws.map ConservationLaw.kind).Nodup) (law : ConservationLaw) :
    ((addLaw laws law).map ConservationLaw.kind).Nodup := by
  rw [addLaw]
  split
  next => exact h
  next hnew =>
    -- A law is only added if there is none yet about its quantity.
    have hfresh : law.kind ∉ laws.map ConservationLaw.kind := by
      simpa [List.mem_map] using hnew
    rw [List.map_append, List.map_singleton, ← List.concat_eq_append]
    exact h.concat hfresh

theorem nodup_kinds_onePerKind (laws : List ConservationLaw) :
    ((onePerKind laws).map ConservationLaw.kind).Nodup :=
  List.foldlRecOn (motive := fun kept => (kept.map ConservationLaw.kind).Nodup) laws addLaw
    List.nodup_nil fun _ h law _ => nodup_kinds_addLaw h law

/-- There is at most one law about each quantity. -/
theorem length_onePerKind_le (laws : List ConservationLaw) :
    (onePerKind laws).length ≤ (Labelled.all : List Conserved).length := by
  rw [← List.length_map ConservationLaw.kind]
  refine ((nodup_kinds_onePerKind laws).subperm fun kind _ => ?_).length_le
  cases kind <;> decide

namespace Verification

variable {t : Thresholds} {laws : List ConservationLaw} {samples : List Sample}
  {checks : List (Check Float)} {weight s : Float} {count : Nat} {ps : List (Float × Nat)}

theorem length_checkLaws_le : (checkLaws t laws samples).length ≤ 6 := by
  rw [checkLaws]
  split
  · rw [List.length_map]
    exact length_onePerKind_le laws
  · exact Nat.zero_le 6

theorem isFraction_conservationRatio (h : checks.length ≤ 6) :
    IsFraction (conservationRatio checks) :=
  isFraction_ratio List.countP_le_length (h.trans_lt (by norm_num))

theorem conservationRatio_of_all (h : checks.all Check.passed = true) (hle : checks.length ≤ 6) :
    conservationRatio checks = 1.0 :=
  (ratio_eq_one_iff List.countP_le_length (hle.trans_lt (by norm_num))).2
    (List.countP_eq_length.2 (List.all_eq_true.1 h))

/-! ## §2 Penalties -/

/-- A penalty is a fraction unless the weight and the number of issues have no product. -/
theorem penalty_cases (hweight : IsAmount weight) (count : Nat) :
    (Clash weight (Float.ofNat count) ∧ (penalty weight count).isNaN = true) ∨
      (¬ Clash weight (Float.ofNat count) ∧ IsFraction (penalty weight count)) := by
  obtain ⟨hclash, hnan⟩ | ⟨hclash, hamount⟩ := hweight.mul_cases (isAmount_ofNat count)
  · exact .inl ⟨hclash, isNaN_inverse hnan⟩
  · exact .inr ⟨hclash, isFraction_inverse hamount⟩

/-- A finite weight costs nothing if there are no issues. -/
theorem penalty_zero (hweight : IsAmount weight) (hfinite : weight.isFinite = true) :
    penalty weight 0 = 1.0 := by
  have hzero : ∃ z, (weight * 0.0).toModel.unpack = .zero z := by
    cases hweight with
    | zero z h =>
      rw [float_mul_eq h rfl]
      exact ⟨_, unpack_pack_zero _⟩
    | positive x hx h =>
      rw [float_mul_eq (h.unpack_eq hx) rfl]
      exact ⟨_, unpack_pack_zero _⟩
    | infinite h =>
      -- This is where an infinite weight would matter: its product with zero is NaN.
      have hinfinite : weight.isFinite = false := congrArg UnpackedFloat.isFinite h
      exact absurd (hfinite.symm.trans hinfinite) Bool.noConfusion
  obtain ⟨z, hz⟩ := hzero
  rw [penalty, show Float.ofNat 0 = 0.0 from rfl, one_add_of_zero hz]
  decide +kernel

/-- Numbers of issues that fit into a machine word clash with infinity alone, when they are zero. -/
theorem clash_ofNat_iff (hcount : count < 2 ^ 64) :
    Clash weight (Float.ofNat count) ↔ weight.isInf = true ∧ count = 0 := by
  obtain rfl | hpos := Nat.eq_zero_or_pos count
  · have hzero : (Float.ofNat 0 == 0.0) = true := rfl
    have hfinite : (Float.ofNat 0).isInf = false := rfl
    simp [Clash, hzero, hfinite]
  · have hsize : (count : ℚ) < 2 ^ 128 := by exact_mod_cast hcount.trans (by norm_num)
    have hexact := isExact_toFloat (by exact_mod_cast hpos) (lt_huge hsize)
    rw [← ofNat_eq hpos] at hexact
    have hone := (toRat_nearest_count hpos).1
    simp [Clash, hexact.isInf_eq_false, hexact.beq_zero_eq_false (one_pos.trans_le hone), hpos.ne']

/-! ## §3 Scores -/

/-- A score multiplied by some penalties. -/
def penalised (s : Float) (ps : List (Float × Nat)) : Float :=
  ps.foldl (fun s p => s * penalty p.1 p.2) s

theorem isNaN_penalised (h : s.isNaN = true) (ps : List (Float × Nat)) :
    (penalised s ps).isNaN = true := by
  induction ps generalizing s with
  | nil => exact h
  | cons p ps ih => exact ih (isNaN_mul_left h)

/-- Penalties lead from fraction to fraction, unless one of them is no number. -/
theorem penalised_cases (hs : IsFraction s) (hps : ∀ p ∈ ps, IsAmount p.1) :
    ((∃ p ∈ ps, Clash p.1 (Float.ofNat p.2)) ∧ (penalised s ps).isNaN = true) ∨
      ((∀ p ∈ ps, ¬ Clash p.1 (Float.ofNat p.2)) ∧ IsFraction (penalised s ps)) := by
  induction ps generalizing s with
  | nil => exact .inr ⟨fun _ h => absurd h List.not_mem_nil, hs⟩
  | cons p ps ih =>
    rw [List.forall_mem_cons] at hps
    obtain ⟨hclash, hnan⟩ | ⟨hclash, hfraction⟩ := penalty_cases hps.1 p.2
    · -- A score that is NaN remains so, whatever the other penalties are.
      exact .inl ⟨⟨p, List.mem_cons_self, hclash⟩, isNaN_penalised (isNaN_mul_right hnan) ps⟩
    · obtain ⟨⟨q, hq, hclash'⟩, hnan⟩ | ⟨hclash', hfraction'⟩ := ih (hs.mul hfraction) hps.2
      · exact .inl ⟨⟨q, List.mem_cons_of_mem p hq, hclash'⟩, hnan⟩
      · exact .inr ⟨List.forall_mem_cons.2 ⟨hclash, hclash'⟩, hfraction'⟩

/-- Penalties for no issues change nothing. -/
theorem penalised_of_clean (hs : IsFraction s)
    (hps : ∀ p ∈ ps, IsAmount p.1 ∧ p.1.isFinite = true ∧ p.2 = 0) : penalised s ps = s := by
  induction ps with
  | nil => rfl
  | cons p ps ih =>
    rw [List.forall_mem_cons] at hps
    obtain ⟨⟨hamount, hfinite, hzero⟩, hrest⟩ := hps
    have hstep : penalised s (p :: ps) = penalised (s * penalty p.1 p.2) ps := rfl
    rw [hstep, hzero, penalty_zero hamount hfinite, hs.mul_by_one, ih hrest]

/-- How much the issues of each kind weigh, and how many there are. -/
def Report.weighed (t : Thresholds) (r : Report) : List (Float × Nat) :=
  [(t.constraintPenalty, r.constraintViolations.length),
    (t.stabilityPenalty, r.stabilityIssues.length),
    (t.causalityPenalty, r.causalityViolations.length)]

theorem score_eq_penalised (t : Thresholds) (laws : List ConservationLaw) (run : Run) :
    (verify t laws run).score = penalised (conservationRatio (verify t laws run).checks)
      ((verify t laws run).weighed t) := rfl

/-- Weights in range are amounts, unless they are NaN. -/
theorem isAmount_of_mem_weighed {r : Report} (hrange : t.rangeFaults = [])
    (hnan : ∀ p ∈ r.weighed t, p.1.isNaN = false) : ∀ p ∈ r.weighed t, IsAmount p.1 := by
  obtain ⟨hconstraint, hstability, hcausality⟩ := Thresholds.not_lt_of_rangeFaults hrange
  intro p hp
  have hnot : ¬ p.1 < 0.0 := by
    obtain rfl | rfl | rfl : p = _ ∨ p = _ ∨ p = _ := by
      simpa only [Report.weighed, List.mem_cons, List.not_mem_nil, or_false] using hp
    · exact hconstraint
    · exact hstability
    · exact hcausality
  exact isAmount_of_not_lt (hnan p hp) hnot

/-- A score is a fraction, unless a weight and a number of issues have no product. -/
theorem score_cases (laws : List ConservationLaw) (run : Run) (hrange : t.rangeFaults = [])
    (hnan : ∀ p ∈ (verify t laws run).weighed t, p.1.isNaN = false) :
    ((∃ p ∈ (verify t laws run).weighed t, Clash p.1 (Float.ofNat p.2)) ∧
        (verify t laws run).score.isNaN = true) ∨
      ((∀ p ∈ (verify t laws run).weighed t, ¬ Clash p.1 (Float.ofNat p.2)) ∧
        IsFraction (verify t laws run).score) :=
  penalised_cases (isFraction_conservationRatio length_checkLaws_le)
    (isAmount_of_mem_weighed hrange hnan)

theorem success_of_isNaN {laws : List ConservationLaw} {run : Run}
    (h : (verify t laws run).score.isNaN = true) : (verify t laws run).success = false := by
  have hnot : decide ((verify t laws run).score ≥ t.successScore) = false :=
    decide_eq_false (not_le_of_isNaN h)
  exact (congrArg _ hnot).trans (Bool.and_false _)

/-- The score of a run is a number from zero to one, unless there is no issue of a kind that weighs
infinitely; without a score a run is no success.  With finite weights and without issues the score
is the part of the laws that hold, which is one if all of them do.

The weights are in range and not NaN, and the numbers of issues fit into a machine word. -/
theorem score_verify (t : Thresholds) (laws : List ConservationLaw) (run : Run)
    (hrange : t.rangeFaults = [])
    (hnan : ∀ p ∈ (verify t laws run).weighed t, p.1.isNaN = false)
    (hcount : ∀ p ∈ (verify t laws run).weighed t, p.2 < 2 ^ 64) :
    let r := verify t laws run
    (r.score.isNaN = true ↔ ∃ p ∈ r.weighed t, p.1.isInf = true ∧ p.2 = 0) ∧
    (r.score.isNaN = false → 0.0 ≤ r.score ∧ r.score ≤ 1.0) ∧
    (r.score.isNaN = true → r.success = false) ∧
    ((∀ p ∈ r.weighed t, p.1.isFinite = true ∧ p.2 = 0) →
      r.score = conservationRatio r.checks ∧
        (r.checks.all Check.passed = true → r.score = 1.0)) := by
  intro r
  have hcases := score_cases laws run hrange hnan
  refine ⟨?_, ?_, success_of_isNaN, fun hclean => ?_⟩
  · obtain ⟨⟨p, hp, hclash⟩, hscore⟩ | ⟨hclash, hscore⟩ := hcases
    · exact iff_of_true hscore ⟨p, hp, (clash_ofNat_iff (hcount p hp)).1 hclash⟩
    · refine iff_of_false (by rw [hscore.not_isNaN]; exact Bool.false_ne_true) ?_
      rintro ⟨p, hp, hinfinite⟩
      exact hclash p hp ((clash_ofNat_iff (hcount p hp)).2 hinfinite)
  · intro hnumber
    obtain ⟨-, hscore⟩ | ⟨-, hscore⟩ := hcases
    · exact absurd (hscore.symm.trans hnumber) Bool.noConfusion
    · exact hscore.bounds
  · have hratio : r.score = conservationRatio r.checks := by
      rw [score_eq_penalised]
      exact penalised_of_clean (isFraction_conservationRatio length_checkLaws_le) fun p hp =>
        ⟨isAmount_of_mem_weighed hrange hnan p hp, hclean p hp⟩
    exact ⟨hratio, fun hall => hratio.trans (conservationRatio_of_all hall length_checkLaws_le)⟩

/-- A body at rest. -/
def sampleAtRest (time : Float) : Sample := .of time [{ id := "body" }] {}

/-- A run over which nothing happens. -/
def runAtRest : Run where
  status := .completed
  character := .generic
  series := [sampleAtRest 0.0, sampleAtRest 1.0]
  statistics :=
    { acceptedSteps := 1, failedSteps := 0, successRatio := 1.0
      minStep := 1.0, maxStep := 1.0, finalTime := 1.0, solver := default }
  events := []
  log := []
  messages := []

/-- Where nothing is wrong it does not matter that issues weigh heavily. -/
theorem score_runAtRest :
    ({ constraintPenalty := 1e300 } : Thresholds).rangeFaults = [] ∧
      (verify { constraintPenalty := 1e300 } [Conserved.law .mass] runAtRest).score = 1.0 := by
  obtain ⟨-, -, -, hclean⟩ := score_verify { constraintPenalty := 1e300 } [Conserved.law .mass]
    runAtRest (by decide +kernel) (by decide +kernel) (by decide +kernel)
  exact ⟨by decide +kernel, (hclean (by decide +kernel)).2 (by decide +kernel)⟩

/-- A settings file in which violated constraints weigh infinitely. -/
def heavySettings : String := "thresholds:\n  constraint_penalty: .inf\n"

/-- With an infinite weight, which a settings file may well give, the same run has no score. -/
theorem isNaN_score_runAtRest :
    let t : Thresholds := { constraintPenalty := 1.0 / 0.0 }
    let r := verify t [Conserved.law .mass] runAtRest
    (RunSettings.load heavySettings).toOption.map RunSettings.thresholds = some t ∧
      t.rangeFaults = [] ∧ (∀ p ∈ r.weighed t, p.1.isNaN = false ∧ p.2 = 0) ∧
      r.checks.all Check.passed = true ∧ conservationRatio r.checks = 1.0 ∧
      r.score.isNaN = true ∧ r.success = false := by
  decide +kernel

end Verification

end PhysicsLab
