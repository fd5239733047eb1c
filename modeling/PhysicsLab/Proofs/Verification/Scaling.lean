import Mathlib.Analysis.Real.Sqrt
import Mathlib.Tactic.Linarith
import Mathlib.Tactic.NormNum
import Mathlib.Tactic.Ring
import PhysicsLab.Verification.Conservation

/-!
# Checks at other scales

Where all masses are multiplied by one factor, so are the energies, momenta and angular momenta of a
run.  A check of conservation relates the change of a quantity to its size, and in exact arithmetic
this relation does not depend on the factor.  A quantity of a size up to `zeroScale` counts as zero,
however: its change is judged as it is.  Below that size a check becomes the more lenient the
smaller the quantity is.

## Main definitions

* `Totals.scaled` — the totals where all masses are multiplied by a factor
* `Totals.size`, `Totals.drift` — what a check looks at
* `unitOf` — what a change is related to

## Main statements

* `passed_checkTotals_scaled_iff` — what a check requires at each scale
* `passed_checkTotals_scaled`
-/

namespace PhysicsLab.Verification

/-! ## §1 Exact checks -/

noncomputable instance : Arithmetic ℝ where
  zero := 0
  abs x := |x|
  sqrt := Real.sqrt
  atMost a b := decide (a ≤ b)
  above a b := decide (b < a)
  zeroScale := 1e-12

theorem zeroScale_real : (Arithmetic.zeroScale : ℝ) = 1e-12 := rfl

theorem zeroScale_pos : 0 < (Arithmetic.zeroScale : ℝ) := by
  rw [zeroScale_real]
  norm_num

theorem zeroScale_le_one : (Arithmetic.zeroScale : ℝ) ≤ 1 := by
  rw [zeroScale_real]
  norm_num

/-- What a change is related to, for a quantity of some size. -/
noncomputable def unitOf (size : ℝ) : ℝ := if Arithmetic.zeroScale < size then size else 1

theorem unitOf_of_lt {size : ℝ} (h : Arithmetic.zeroScale < size) : unitOf size = size := if_pos h

theorem unitOf_of_le {size : ℝ} (h : size ≤ Arithmetic.zeroScale) : unitOf size = 1 :=
  if_neg (not_lt_of_ge h)

theorem unitOf_pos (size : ℝ) : 0 < unitOf size := by
  unfold unitOf
  split
  · next hlt => exact zeroScale_pos.trans hlt
  · exact one_pos

/-- Going down in scale, the unit shrinks at most as much as the quantity. -/
theorem mul_unitOf_le {s : ℝ} (hs : 0 < s) (hle : s ≤ 1) (size : ℝ) :
    s * unitOf size ≤ unitOf (s * size) := by
  rcases lt_or_ge Arithmetic.zeroScale (s * size) with hscaled | hscaled
  · -- What counts at the smaller scale counts at the larger one, and is its own unit at both.
    have hpos : 0 < size := pos_of_mul_pos_right (zeroScale_pos.trans hscaled) hs.le
    have hsize : Arithmetic.zeroScale < size :=
      hscaled.trans_le (mul_le_of_le_one_left hpos.le hle)
    rw [unitOf_of_lt hscaled, unitOf_of_lt hsize]
  · rw [unitOf_of_le hscaled]
    rcases lt_or_ge Arithmetic.zeroScale size with hsize | hsize
    · rw [unitOf_of_lt hsize]
      exact hscaled.trans zeroScale_le_one
    · rw [unitOf_of_le hsize, mul_one]
      exact hle

namespace Directed

variable {a b : Directed ℝ} {s : ℝ}

theorem norm_nonneg (a : Directed ℝ) : 0 ≤ a.norm := Real.sqrt_nonneg _

/-- A multiple of a quantity. -/
noncomputable def scaled (s : ℝ) (a : Directed ℝ) : Directed ℝ := ⟨s * a.x, s * a.y, s * a.z⟩

theorem norm_scaled (hs : 0 ≤ s) : (a.scaled s).norm = s * a.norm := by
  have hsquares : s * a.x * (s * a.x) + s * a.y * (s * a.y) + s * a.z * (s * a.z) =
      s ^ 2 * (a.x * a.x + a.y * a.y + a.z * a.z) := by ring
  calc (a.scaled s).norm = Real.sqrt (s ^ 2 * (a.x * a.x + a.y * a.y + a.z * a.z)) :=
        congrArg Real.sqrt hsquares
    _ = s * a.norm := by rw [Real.sqrt_mul (sq_nonneg s), Real.sqrt_sq hs]; rfl

theorem change_scaled : (a.scaled s).change (b.scaled s) = (a.change b).scaled s := by
  simp only [change, scaled, mul_sub]

theorem norm_scalar (x : ℝ) : (scalar x).norm = |x| := by
  have hsquares : x * x + (0 : ℝ) * 0 + 0 * 0 = x ^ 2 := by ring
  exact (congrArg Real.sqrt hsquares).trans (Real.sqrt_sq_eq_abs x)

end Directed

/-! ## §2 Scaled totals -/

/-- Whether a quantity is in proportion to the masses. -/
def growsWithMass : Conserved → Bool
  | .energy => true
  | .momentum => true
  | .angularMomentum => true
  | .charge => false
  | .mass => true
  | .bodyCount => false

namespace Totals

variable {kind : Conserved} {s : ℝ} {t first last : Totals ℝ}

/-- The totals where the masses are multiplied by a factor, and with them energies, momenta and
angular momenta. -/
noncomputable def scaled (s : ℝ) (t : Totals ℝ) : Totals ℝ :=
  { t with
    energy := s * t.energy
    momentum := t.momentum.scaled s
    angularMomentum := t.angularMomentum.scaled s
    mass := s * t.mass }

theorem get_scaled (hkind : growsWithMass kind = true) :
    (t.scaled s).get kind = (t.get kind).scaled s := by
  have hscalar (x : ℝ) : Directed.scalar (s * x) = (Directed.scalar x).scaled s := by
    simp only [Directed.scalar, Directed.scaled, show (Arithmetic.zero : ℝ) = 0 from rfl, mul_zero]
  cases kind with
  | energy => exact hscalar t.energy
  | momentum => rfl
  | angularMomentum => rfl
  | charge => cases hkind
  | mass => exact hscalar t.mass
  | bodyCount => cases hkind

/-- How much there is of a quantity. -/
noncomputable def size (kind : Conserved) (t : Totals ℝ) : ℝ := (t.get kind).norm

/-- By how much a quantity changes. -/
noncomputable def drift (kind : Conserved) (first last : Totals ℝ) : ℝ :=
  ((first.get kind).change (last.get kind)).norm

theorem size_scaled (hkind : growsWithMass kind = true) (hs : 0 ≤ s) :
    (t.scaled s).size kind = s * t.size kind := by
  rw [size, get_scaled hkind, Directed.norm_scaled hs, size]

theorem drift_scaled (hkind : growsWithMass kind = true) (hs : 0 ≤ s) :
    drift kind (first.scaled s) (last.scaled s) = s * drift kind first last := by
  rw [drift, get_scaled hkind, get_scaled hkind, Directed.change_scaled, Directed.norm_scaled hs,
    drift]

end Totals

/-! ## §3 Judgements -/

section

variable {kind : Conserved} {s tolerance : ℝ} {first last : Totals ℝ}

theorem relativeDeviation_le_iff {size change : ℝ} (hsize : 0 ≤ size) (hchange : 0 ≤ change) :
    relativeDeviation size change ≤ tolerance ↔ change ≤ tolerance * unitOf size := by
  have hdeviation : relativeDeviation size change =
      if Arithmetic.zeroScale < size then change / size else change := by
    have habs : relativeDeviation size change =
        if decide (Arithmetic.zeroScale < |size|) = true then |change| / |size| else |change| := rfl
    rw [habs, abs_of_nonneg hsize, abs_of_nonneg hchange]
    simp only [decide_eq_true_eq]
  rw [hdeviation, unitOf]
  split
  · next hlt => exact div_le_iff₀ (zeroScale_pos.trans hlt)
  · rw [mul_one]

/-- A check passes if the change is at most the tolerated part of the unit. -/
theorem passed_checkTotals_iff :
    (checkTotals kind tolerance first last).passed = true ↔
      Totals.drift kind first last ≤ tolerance * unitOf (first.size kind) := by
  have hdeviation : (checkTotals kind tolerance first last).passed = true ↔
      relativeDeviation (first.size kind) (Totals.drift kind first last) ≤ tolerance :=
    decide_eq_true_iff
  exact hdeviation.trans
    (relativeDeviation_le_iff (Directed.norm_nonneg _) (Directed.norm_nonneg _))

theorem passed_checkTotals_scaled_iff (hkind : growsWithMass kind = true) (hs : 0 ≤ s) :
    (checkTotals kind tolerance (first.scaled s) (last.scaled s)).passed = true ↔
      s * Totals.drift kind first last ≤ tolerance * unitOf (s * first.size kind) := by
  rw [passed_checkTotals_iff, Totals.drift_scaled hkind hs, Totals.size_scaled hkind hs]

end

/-- A check gives the same at each scale at which the quantity does not count as zero.  Where it
does, the change is judged as it is; going down in scale, no check fails that passed before. -/
theorem passed_checkTotals_scaled (kind : Conserved) (hkind : growsWithMass kind = true) (s : ℝ)
    (hs : 0 < s) (tolerance : ℝ) (first last : Totals ℝ) :
    (Arithmetic.zeroScale < first.size kind → Arithmetic.zeroScale < s * first.size kind →
      (checkTotals kind tolerance (first.scaled s) (last.scaled s)).passed =
        (checkTotals kind tolerance first last).passed) ∧
    (s * first.size kind ≤ Arithmetic.zeroScale →
      ((checkTotals kind tolerance (first.scaled s) (last.scaled s)).passed = true ↔
        s * Totals.drift kind first last ≤ tolerance)) ∧
    (s ≤ 1 → (checkTotals kind tolerance first last).passed = true →
      (checkTotals kind tolerance (first.scaled s) (last.scaled s)).passed = true) := by
  refine ⟨fun hsize hscaled => ?_, fun hscaled => ?_, fun hle hpassed => ?_⟩
  · rw [Bool.eq_iff_iff, passed_checkTotals_scaled_iff hkind hs.le, passed_checkTotals_iff,
      unitOf_of_lt hsize, unitOf_of_lt hscaled, mul_left_comm]
    exact mul_le_mul_iff_right₀ hs
  · rw [passed_checkTotals_scaled_iff hkind hs.le, unitOf_of_le hscaled, mul_one]
  · rw [passed_checkTotals_iff] at hpassed
    rw [passed_checkTotals_scaled_iff hkind hs.le]
    have hunit := unitOf_pos (first.size kind)
    -- A change has a magnitude, so nothing passes with a negative tolerance.
    have htolerance : 0 ≤ tolerance :=
      nonneg_of_mul_nonneg_left ((Directed.norm_nonneg _).trans hpassed) hunit
    calc s * Totals.drift kind first last
        ≤ s * (tolerance * unitOf (first.size kind)) := mul_le_mul_of_nonneg_left hpassed hs.le
      _ = tolerance * (s * unitOf (first.size kind)) := mul_left_comm ..
      _ ≤ tolerance * unitOf (s * first.size kind) :=
        mul_le_mul_of_nonneg_left (mul_unitOf_le hs hle _) htolerance

/-- A body at rest. -/
noncomputable def atRest (mass : ℝ) : Totals ℝ where
  energy := 0
  momentum := ⟨0, 0, 0⟩
  angularMomentum := ⟨0, 0, 0⟩
  charge := 0
  mass := mass
  bodyCount := 1

theorem size_atRest {mass : ℝ} (hmass : 0 ≤ mass) : (atRest mass).size .mass = mass :=
  (Directed.norm_scalar mass).trans (abs_of_nonneg hmass)

theorem drift_atRest {before after : ℝ} (hle : before ≤ after) :
    Totals.drift .mass (atRest before) (atRest after) = after - before := by
  have hchange : ((atRest before).get .mass).change ((atRest after).get .mass) =
      .scalar (after - before) := by
    have hzero : (0 : ℝ) - 0 = 0 := sub_zero 0
    exact congrArg (fun z => Directed.mk (after - before) z z) hzero
  rw [Totals.drift, hchange, Directed.norm_scalar, abs_of_nonneg (sub_nonneg.2 hle)]

/-- A small change of mass is tolerated for a heavy body, and for one a thousand times lighter. -/
theorem passed_checkTotals_lighter :
    (checkTotals .mass 1e-3 (atRest 1000) (atRest 1000.5)).passed = true ∧
      (checkTotals .mass 1e-3 ((atRest 1000).scaled 1e-3) ((atRest 1000.5).scaled 1e-3)).passed =
        true := by
  have hpassed : (checkTotals .mass 1e-3 (atRest 1000) (atRest 1000.5)).passed = true := by
    rw [passed_checkTotals_iff, drift_atRest (by norm_num), size_atRest (by norm_num),
      unitOf_of_lt (by rw [zeroScale_real]; norm_num)]
    norm_num
  obtain ⟨hsame, -, -⟩ := passed_checkTotals_scaled .mass rfl 1e-3 (by norm_num) 1e-3 (atRest 1000)
    (atRest 1000.5)
  rw [size_atRest (by norm_num), zeroScale_real] at hsame
  exact ⟨hpassed, (hsame (by norm_num) (by norm_num)).trans hpassed⟩

/-- A mass that doubles is no longer noticed at the scale of an electron. -/
theorem passed_checkTotals_doubled :
    (checkTotals .mass 1e-3 (atRest 1000) (atRest 2000)).passed = false ∧
      (checkTotals .mass 1e-3 ((atRest 1000).scaled 1e-33) ((atRest 2000).scaled 1e-33)).passed =
        true := by
  constructor
  · rw [Bool.eq_false_iff, ne_eq, passed_checkTotals_iff, drift_atRest (by norm_num),
      size_atRest (by norm_num), unitOf_of_lt (by rw [zeroScale_real]; norm_num)]
    norm_num
  · rw [passed_checkTotals_scaled_iff rfl (by norm_num), drift_atRest (by norm_num),
      size_atRest (by norm_num), unitOf_of_le (by rw [zeroScale_real]; norm_num)]
    norm_num

end PhysicsLab.Verification
