import Mathlib.Data.Nat.Cast.Order.Field
import PhysicsLab.Number.Decimal
import PhysicsLab.Proofs.Number.Exact

/-!
# Shortest decimals read back

The numbers that are rounded to a magnitude fill the interval between the middles to its two
neighbours.  A shortest decimal is chosen inside that interval, so reading it gives the magnitude
back.  That one is found: a grid of seventeen digits is finer than the interval is wide.

## Main definitions

* `Decimal.toRat` — the number that a decimal stands for
* `Dyadic.Covers` — a number lies in the interval of a magnitude

## Main statements

* `covers_shortest` — the shortest decimal lies in the interval of its magnitude
* `nearest_of_covers` — what lies in the interval of a magnitude is rounded to it
* `ofDecimal_of_covers` — a decimal in the interval of a magnitude is read as that magnitude
-/

namespace PhysicsLab.Number

/-! ## §1 The decimal exponent -/

theorem zpow_eq_div {b : ℚ} (hb : 0 < b) (k : ℤ) : b ^ k = b ^ k.toNat / b ^ (-k).toNat := by
  rw [← zpow_natCast, ← zpow_natCast, ← zpow_sub₀ hb.ne']
  congr 1
  omega

theorem reachesPower_iff {m : Nat} {q k : ℤ} :
    reachesPower m q k = true ↔ (10 : ℚ) ^ k ≤ m * 2 ^ q := by
  have hten : (0 : ℚ) < 10 ^ (-k).toNat := by positivity
  have htwo : (0 : ℚ) < 2 ^ (-q).toNat := by positivity
  rw [zpow_eq_div (b := 10) (by norm_num), zpow_eq_div (b := 2) (by norm_num), ← mul_div_assoc,
    div_le_div_iff₀ hten htwo]
  simp only [reachesPower, decide_eq_true_eq]
  show 10 ^ k.toNat * 2 ^ (-q).toNat ≤ m * 2 ^ q.toNat * 10 ^ (-k).toNat ↔ _
  rw [← Nat.cast_le (α := ℚ)]
  push_cast
  rfl

/-- The estimate of the decimal exponent of a power of two is too large by one at most. -/
theorem estimate_reaches : ∀ i : Fin 2098,
    reachesPower 1 (i.val - 1074) ((i.val - 1074) * 30103 / 100000 - 1) = true := by
  decide +kernel

theorem zpow_decimalExponent_le {m : Nat} {q : ℤ} (hm : 0 < m) (hlow : -1074 ≤ m.log2 + q)
    (hhigh : m.log2 + q ≤ 1023) : (10 : ℚ) ^ decimalExponent m q ≤ m * 2 ^ q := by
  unfold decimalExponent
  dsimp only
  split
  · have hpower : (2 : ℚ) ^ (m.log2 + q) ≤ m * 2 ^ q := by
      rw [zpow_add₀ two_ne_zero, zpow_natCast]
      have : (2 : ℚ) ^ m.log2 ≤ m := by exact_mod_cast Nat.log2_self_le hm.ne'
      gcongr
    have hestimate := estimate_reaches ⟨(m.log2 + q + 1074).toNat, by omega⟩
    rw [show ((m.log2 + q + 1074).toNat : ℤ) - 1074 = m.log2 + q by omega, reachesPower_iff,
      Nat.cast_one, one_mul] at hestimate
    exact hestimate.trans hpower
  · next hreaches =>
    split
    · next h => exact reachesPower_iff.1 h
    · exact reachesPower_iff.1 (by simpa using hreaches)

/-! ## §2 Points of a grid -/

/-- The number that a decimal stands for. -/
def Decimal.toRat (d : Decimal) : ℚ := d.digits * 10 ^ d.exponent

/-- A number lies between the middles to the neighbours of a magnitude; the middles count if the
mantissa is even. -/
def Dyadic.Covers (d : Dyadic) (x : ℚ) : Prop :=
  let unit : ℚ := 2 ^ (d.exponent - 2)
  if (neighbourhood d).closed then
    (neighbourhood d).low * unit ≤ x ∧ x ≤ (neighbourhood d).high * unit
  else (neighbourhood d).low * unit < x ∧ x < (neighbourhood d).high * unit

/-- A step of the grid, and the unit that it is measured in. -/
def gridScale (d : Dyadic) (p : Int) : Nat × Nat :=
  (Nat.pow 10 p.toNat * Nat.pow 2 (2 - d.exponent).toNat,
    Nat.pow 10 (-p).toNat * Nat.pow 2 (-(2 - d.exponent)).toNat)

/-- The last point of the grid that is not above the double. -/
def pointBelow (d : Dyadic) (p : Int) : Nat :=
  (neighbourhood d).centre * (gridScale d p).2 / (gridScale d p).1

variable {d : Dyadic} {p : ℤ} {tie : Tie}

theorem gridScale_pos : 0 < (gridScale d p).1 ∧ 0 < (gridScale d p).2 :=
  ⟨Nat.mul_pos (Nat.pow_pos (by decide)) (Nat.pow_pos (by decide)),
    Nat.mul_pos (Nat.pow_pos (by decide)) (Nat.pow_pos (by decide))⟩

theorem gridScale_eq :
    ((gridScale d p).1 : ℚ) / (gridScale d p).2 = 10 ^ p / 2 ^ (d.exponent - 2) := by
  show ((10 ^ p.toNat * 2 ^ (2 - d.exponent).toNat : Nat) : ℚ) /
    (10 ^ (-p).toNat * 2 ^ (-(2 - d.exponent)).toNat : Nat) = _
  push_cast
  rw [mul_div_mul_comm, ← zpow_eq_div (by norm_num), ← zpow_eq_div (by norm_num),
    ← neg_sub, zpow_neg, ← div_eq_mul_inv]

theorem mul_unit_le_iff {n c : Nat} : (n : ℚ) * 2 ^ (d.exponent - 2) ≤ c * 10 ^ p ↔
    n * (gridScale d p).2 ≤ c * (gridScale d p).1 := by
  have hunit : (0 : ℚ) < 2 ^ (d.exponent - 2) := by positivity
  have hden : (0 : ℚ) < (gridScale d p).2 := by exact_mod_cast gridScale_pos.2
  rw [← le_div_iff₀ hunit, mul_div_assoc, ← gridScale_eq, ← mul_div_assoc, le_div_iff₀ hden]
  exact_mod_cast Iff.rfl

theorem le_mul_unit_iff {n c : Nat} : (c : ℚ) * 10 ^ p ≤ n * 2 ^ (d.exponent - 2) ↔
    c * (gridScale d p).1 ≤ n * (gridScale d p).2 := by
  have hunit : (0 : ℚ) < 2 ^ (d.exponent - 2) := by positivity
  have hden : (0 : ℚ) < (gridScale d p).2 := by exact_mod_cast gridScale_pos.2
  rw [← div_le_iff₀ hunit, mul_div_assoc, ← gridScale_eq, ← mul_div_assoc, div_le_iff₀ hden]
  exact_mod_cast Iff.rfl

theorem covers_grid_iff {c : Nat} : d.Covers (c * 10 ^ p) ↔
    (if (neighbourhood d).closed then
      decide ((neighbourhood d).low * (gridScale d p).2 ≤ c * (gridScale d p).1) &&
        decide (c * (gridScale d p).1 ≤ (neighbourhood d).high * (gridScale d p).2)
    else
      decide ((neighbourhood d).low * (gridScale d p).2 < c * (gridScale d p).1) &&
        decide (c * (gridScale d p).1 < (neighbourhood d).high * (gridScale d p).2)) = true := by
  unfold Dyadic.Covers
  split
  · rw [Bool.and_eq_true, decide_eq_true_iff, decide_eq_true_iff, ← mul_unit_le_iff,
      ← le_mul_unit_iff]
  · rw [Bool.and_eq_true, decide_eq_true_iff, decide_eq_true_iff, ← not_le, ← not_le,
      ← mul_unit_le_iff, ← le_mul_unit_iff, not_le, not_le]

theorem Tie.pick_cases (tie : Tie) (n : Nat) : tie.pick n = n ∨ tie.pick n = n + 1 := by
  unfold Tie.pick
  split
  · split
    · exact .inl rfl
    · exact .inr rfl
  · exact .inr rfl

/-- A point of a grid that is chosen lies in the interval, and one is chosen if one of the two
next to the double does. -/
theorem gridPoint?_cases (tie : Tie) (d : Dyadic) (p : ℤ) :
    (∃ c, gridPoint? tie d p = some c ∧ d.Covers (c * 10 ^ p)) ∨
      gridPoint? tie d p = none ∧ ¬ d.Covers (pointBelow d p * 10 ^ p) ∧
        ¬ d.Covers ((pointBelow d p + 1 : Nat) * 10 ^ p) := by
  rw [covers_grid_iff, covers_grid_iff, Bool.not_eq_true, Bool.not_eq_true]
  unfold gridPoint?
  dsimp only
  split
  · next hbelow habove =>
    left
    split
    · exact ⟨_, rfl, covers_grid_iff.2 hbelow⟩
    · split
      · exact ⟨_, rfl, covers_grid_iff.2 habove⟩
      · obtain h | h := tie.pick_cases (pointBelow d p)
        · exact ⟨_, congrArg some h, covers_grid_iff.2 hbelow⟩
        · exact ⟨_, congrArg some h, covers_grid_iff.2 habove⟩
  · next hbelow _ => exact .inl ⟨_, rfl, covers_grid_iff.2 hbelow⟩
  · next _ habove => exact .inl ⟨_, rfl, covers_grid_iff.2 habove⟩
  · next hbelow habove => exact .inr ⟨rfl, hbelow, habove⟩

/-! ## §3 The interval of a magnitude -/

theorem low_neighbourhood (hpos : 0 < d.mantissa) : ((neighbourhood d).low : ℚ) =
    4 * d.mantissa - if d.mantissa = 2 ^ 52 ∧ d.exponent ≠ -1074 then 1 else 2 := by
  have hnarrow : ((d.mantissa == Nat.pow 2 52 && decide (d.exponent ≠ -1074)) = true) ↔
      d.mantissa = 2 ^ 52 ∧ d.exponent ≠ -1074 := by
    rw [Bool.and_eq_true, beq_iff_eq, decide_eq_true_iff]
    rfl
  unfold neighbourhood
  dsimp only
  simp only [hnarrow]
  split
  · rw [Nat.cast_sub (by omega)]
    push_cast
    rfl
  · rw [Nat.cast_sub (by omega)]
    push_cast
    rfl

theorem centre_neighbourhood : ((neighbourhood d).centre : ℚ) = 4 * d.mantissa := by
  show ((4 * d.mantissa : Nat) : ℚ) = _
  push_cast
  rfl

theorem high_neighbourhood : ((neighbourhood d).high : ℚ) = 4 * d.mantissa + 2 := by
  show ((4 * d.mantissa + 2 : Nat) : ℚ) = _
  push_cast
  rfl

theorem covers_of_lt {x : ℚ} (hlow : (neighbourhood d).low * (2 : ℚ) ^ (d.exponent - 2) < x)
    (hhigh : x < (neighbourhood d).high * (2 : ℚ) ^ (d.exponent - 2)) : d.Covers x := by
  unfold Dyadic.Covers
  split
  · exact ⟨hlow.le, hhigh.le⟩
  · exact ⟨hlow, hhigh⟩

theorem Dyadic.Covers.le {x : ℚ} (h : d.Covers x) :
    (neighbourhood d).low * (2 : ℚ) ^ (d.exponent - 2) ≤ x ∧
      x ≤ (neighbourhood d).high * (2 : ℚ) ^ (d.exponent - 2) := by
  unfold Dyadic.Covers at h
  dsimp only at h
  split at h
  · exact h
  · exact ⟨h.1.le, h.2.le⟩

theorem toRat_eq_units : d.toRat = 4 * d.mantissa * 2 ^ (d.exponent - 2) := by
  rw [Dyadic.toRat, zpow_sub₀ two_ne_zero]
  norm_num
  ring

theorem Dyadic.Covers.pos {x : ℚ} (h : d.Covers x) (hpos : 0 < d.mantissa) : 0 < x := by
  have hm : (1 : ℚ) ≤ d.mantissa := by exact_mod_cast hpos
  have hunit : (0 : ℚ) < 2 ^ (d.exponent - 2) := by positivity
  have hlow : (0 : ℚ) < (neighbourhood d).low := by
    rw [low_neighbourhood hpos]
    split <;> linarith
  exact lt_of_lt_of_le (mul_pos hlow hunit) h.le.1

/-- A grid of seventeen digits is finer than the interval is wide. -/
theorem exists_gridPoint (tie : Tie) (hd : d.Stored) (hpos : 0 < d.mantissa)
    (hfine : (10 : ℚ) ^ (p + 16) ≤ d.toRat) :
    ∃ c, gridPoint? tie d p = some c ∧ d.Covers (c * 10 ^ p) := by
  obtain h | ⟨-, hbelow, habove⟩ := gridPoint?_cases tie d p
  · exact h
  · exfalso
    have hunit : (0 : ℚ) < 2 ^ (d.exponent - 2) := by positivity
    have hunder : (pointBelow d p : ℚ) * 10 ^ p ≤ 4 * d.mantissa * 2 ^ (d.exponent - 2) := by
      rw [← centre_neighbourhood, le_mul_unit_iff]
      exact Nat.div_mul_le_self _ _
    have hover :
        4 * d.mantissa * 2 ^ (d.exponent - 2) < ((pointBelow d p + 1 : Nat) : ℚ) * 10 ^ p := by
      rw [← centre_neighbourhood, ← not_le, le_mul_unit_iff, not_le]
      exact Nat.lt_mul_of_div_lt (Nat.lt_succ_self _) gridScale_pos.1
    have hfirst :
        (pointBelow d p : ℚ) * 10 ^ p ≤ (neighbourhood d).low * 2 ^ (d.exponent - 2) := by
      by_contra h
      refine hbelow (covers_of_lt (not_le.1 h) (hunder.trans_lt ?_))
      rw [high_neighbourhood]
      linarith
    have hlast : (neighbourhood d).high * (2 : ℚ) ^ (d.exponent - 2) ≤
        ((pointBelow d p + 1 : Nat) : ℚ) * 10 ^ p := by
      by_contra h
      refine habove (covers_of_lt (lt_of_le_of_lt ?_ hover) (not_le.1 h))
      rw [low_neighbourhood hpos]
      split <;> linarith
    -- So one step is as wide as the interval, which has more than sixteen digits.
    rw [high_neighbourhood] at hlast
    rw [low_neighbourhood hpos] at hfirst
    rw [toRat_eq_units, zpow_add₀ (by norm_num)] at hfine
    push_cast at hlast
    split at hfirst
    · next hnarrow =>
      rw [hnarrow.1] at hfine hfirst hlast
      push_cast at hfine hfirst hlast
      linarith
    · have hm : (d.mantissa : ℚ) * 2 ^ (d.exponent - 2) ≤ 2 ^ 53 * 2 ^ (d.exponent - 2) :=
        mul_le_mul_of_nonneg_right (by exact_mod_cast hd.mantissa_lt.le) hunit.le
      linarith

/-! ## §4 The shortest decimal -/

theorem toRat_stripZeros (bound digits : Nat) (exponent : ℤ) :
    (stripZeros bound digits exponent).toRat = digits * 10 ^ exponent := by
  induction bound generalizing digits exponent with
  | zero => rfl
  | succ bound ih =>
    unfold stripZeros
    split
    · next h =>
      rw [ih, zpow_add_one₀ (by norm_num)]
      have hdigits : (digits : ℚ) = (digits / 10 : Nat) * 10 := by
        exact_mod_cast (Nat.div_mul_cancel (Nat.dvd_of_mod_eq_zero h)).symm
      rw [hdigits]
      ring
    · rfl

theorem toRat_normal (a : Decimal) : a.normal.toRat = a.toRat := by
  unfold Decimal.normal
  split
  · next h => simp [Decimal.toRat, h]
  · exact toRat_stripZeros _ _ _

theorem covers_shortestFrom_of_some {k : ℤ} {count left c : Nat}
    (hfound : gridPoint? tie d (k + 1 - count) = some c)
    (hcovers : d.Covers (c * 10 ^ (k + 1 - count))) :
    d.Covers (shortestFrom tie d k count left).toRat := by
  unfold shortestFrom
  dsimp only
  rw [hfound]
  dsimp only
  rw [toRat_normal]
  exact hcovers

/-- The search ends at the first grid that has a point in the interval. -/
theorem covers_shortestFrom {k : ℤ} {count : Nat} (extra more : Nat)
    (hfound : gridPoint? tie d (k + 1 - (count + extra : Nat)) ≠ none) :
    d.Covers (shortestFrom tie d k count (extra + more)).toRat := by
  induction extra generalizing count with
  | zero =>
    obtain ⟨c, hc, hcovers⟩ | ⟨hnone, -⟩ :=
      gridPoint?_cases tie d (k + 1 - count)
    · exact covers_shortestFrom_of_some hc hcovers
    · exact absurd hnone hfound
  | succ extra ih =>
    obtain ⟨c, hc, hcovers⟩ | ⟨hnone, -⟩ :=
      gridPoint?_cases tie d (k + 1 - count)
    · exact covers_shortestFrom_of_some hc hcovers
    · rw [show extra + 1 + more = (extra + more) + 1 by omega]
      unfold shortestFrom
      dsimp only
      rw [hnone]
      exact ih (by rwa [show count + 1 + extra = count + (extra + 1) by omega])

theorem log2_add_exponent (hd : d.Stored) (hle : d.exponent ≤ 971) (hpos : 0 < d.mantissa) :
    -1074 ≤ d.mantissa.log2 + d.exponent ∧ d.mantissa.log2 + d.exponent ≤ 1023 := by
  have hmin := hd.le_exponent
  have hlog : d.mantissa.log2 < 53 := (Nat.log2_lt hpos.ne').2 hd.mantissa_lt
  omega

/-- The shortest decimal lies in the interval of its magnitude. -/
theorem covers_shortest (tie : Tie) (hd : d.Stored) (hle : d.exponent ≤ 971)
    (hpos : 0 < d.mantissa) : d.Covers (shortest tie d).toRat := by
  obtain ⟨hlow, hhigh⟩ := log2_add_exponent hd hle hpos
  have hpower := zpow_decimalExponent_le hpos hlow hhigh
  unfold shortest
  rw [if_neg hpos.ne']
  -- The seventeenth grid has a point.
  apply covers_shortestFrom 16 1
  obtain ⟨c, hc, -⟩ := exists_gridPoint tie hd hpos
    (p := decimalExponent d.mantissa d.exponent + 1 - (1 + 16 : Nat)) (by
      refine le_trans (le_of_eq ?_) hpower
      congr 1
      omega)
  rw [hc]
  exact Option.some_ne_none c

theorem shortest_of_zero (hzero : d.mantissa = 0) : shortest tie d = ⟨0, 0⟩ := if_pos hzero

theorem digits_shortest_ne_zero (hd : d.Stored) (hle : d.exponent ≤ 971) (hpos : 0 < d.mantissa) :
    (shortest tie d).digits ≠ 0 := by
  intro hzero
  refine ((covers_shortest tie hd hle hpos).pos hpos).ne' ?_
  rw [Decimal.toRat, hzero, Nat.cast_zero, zero_mul]

/-! ## §5 Reading back -/

theorem zpow_exponent_eq : (2 : ℚ) ^ d.exponent = 4 * 2 ^ (d.exponent - 2) := by
  rw [zpow_sub₀ two_ne_zero]
  norm_num
  ring

theorem near_of_covers {x : ℚ} (hpos : 0 < d.mantissa) (h : d.Covers x) :
    Near (x / 2 ^ d.exponent) d.mantissa := by
  have hunit : (0 : ℚ) < 2 ^ (d.exponent - 2) := by positivity
  have hlow : (4 * d.mantissa - 2) * (2 : ℚ) ^ (d.exponent - 2) ≤
      (neighbourhood d).low * 2 ^ (d.exponent - 2) := by
    apply mul_le_mul_of_nonneg_right _ hunit.le
    rw [low_neighbourhood hpos]
    split <;> linarith
  have hhigh := high_neighbourhood (d := d)
  rw [zpow_exponent_eq]
  unfold Dyadic.Covers at h
  dsimp only at h
  split at h
  · next heven =>
    apply near_of_even
    · rw [le_div_iff₀ (by positivity)]
      linarith [h.1]
    · rw [div_le_iff₀ (by positivity)]
      rw [hhigh] at h
      linarith [h.2]
    · exact beq_iff_eq.1 heven
  · apply near_of_lt
    · rw [lt_div_iff₀ (by positivity)]
      linarith [h.1]
    · rw [div_lt_iff₀ (by positivity)]
      rw [hhigh] at h
      linarith [h.2]

/-- What lies in the interval of a magnitude is rounded to it. -/
theorem nearest_of_covers {x : ℚ} (hd : d.Stored) (hpos : 0 < d.mantissa) (h : d.Covers x) :
    nearest x = d := by
  have hnear := near_of_covers hpos h
  have hx := h.pos hpos
  by_cases hfull : 2 ^ (d.exponent + 52) ≤ x ∨ d.exponent = -1074
  · exact nearest_eq hd hx hnear hfull
  · -- Below a power of two the neighbours are closer.
    obtain ⟨hlt, hexponent⟩ := not_or.1 hfull
    rw [not_le] at hlt
    have hunit : (0 : ℚ) < 2 ^ d.exponent := by positivity
    have hmantissa : d.mantissa = 2 ^ 52 := by
      have hquotient : x / 2 ^ d.exponent < 2 ^ 52 := by
        rw [div_lt_iff₀ hunit, mul_comm]
        rwa [zpow_add₀ two_ne_zero] at hlt
      have hupper : (d.mantissa : ℚ) < 2 ^ 52 + 1 := by linarith [hnear.1]
      have : d.mantissa < 2 ^ 52 + 1 := by exact_mod_cast hupper
      have := hd.full.resolve_right hexponent
      omega
    have hlow := h.le.1
    rw [low_neighbourhood hpos, if_pos ⟨hmantissa, hexponent⟩, hmantissa] at hlow
    have hhalf : (2 : ℚ) ^ (d.exponent - 1) = 2 * 2 ^ (d.exponent - 2) := by
      rw [zpow_sub₀ two_ne_zero, zpow_sub₀ two_ne_zero]
      norm_num
      ring
    have hmin := hd.le_exponent
    rw [nearest_eq_of_narrow hx (by omega) hlt (by
      rw [hhalf]
      push_cast at hlow
      linarith), ← hmantissa]

theorem length_digitChars_le {n k : Nat} (hk : 0 < k) :
    (digitChars n).length ≤ k ↔ n < 10 ^ k :=
  Nat.length_toDigits_le_iff (by decide) hk

theorem length_digitChars_pos {n : Nat} : 0 < (digitChars n).length := Nat.length_toDigits_pos

theorem pow_length_digitChars_le {n : Nat} (hn : 0 < n) :
    10 ^ ((digitChars n).length - 1) ≤ n := by
  by_cases hlength : (digitChars n).length - 1 = 0
  · rw [hlength]
    exact hn
  · rw [← not_lt, ← length_digitChars_le (Nat.pos_of_ne_zero hlength)]
    omega

theorem lt_pow_length_digitChars {n : Nat} : n < 10 ^ (digitChars n).length :=
  (length_digitChars_le length_digitChars_pos).1 le_rfl

/-- A decimal lies between the powers of ten that its length and its exponent say. -/
theorem zpow_size_le {n : Nat} {k : ℤ} (hn : 0 < n) :
    (10 : ℚ) ^ ((digitChars n).length + k - 1) ≤ n * 10 ^ k ∧
      (n : ℚ) * 10 ^ k < 10 ^ ((digitChars n).length + k) := by
  have hlength := length_digitChars_pos (n := n)
  have hpower : (0 : ℚ) < 10 ^ k := by positivity
  constructor
  · rw [show ((digitChars n).length + k - 1 : ℤ) = ((digitChars n).length - 1 : Nat) + k by omega,
      zpow_add₀ (by norm_num), zpow_natCast]
    exact mul_le_mul_of_nonneg_right (by exact_mod_cast pow_length_digitChars_le hn) hpower.le
  · rw [zpow_add₀ (by norm_num), zpow_natCast]
    exact mul_lt_mul_of_pos_right (by exact_mod_cast lt_pow_length_digitChars) hpower

/-- No magnitude is out of the reach of these powers. -/
theorem Dyadic.Covers.range {x : ℚ} (h : d.Covers x) (hd : d.Stored) (hle : d.exponent ≤ 971)
    (hpos : 0 < d.mantissa) : (10 : ℚ) ^ (-400 : ℤ) < x ∧ x < 10 ^ (400 : ℤ) := by
  obtain ⟨hlow, hhigh⟩ := h.le
  have hunit : (0 : ℚ) < 2 ^ (d.exponent - 2) := by positivity
  have hmin := hd.le_exponent
  have hpowers : (2 : ℚ) ^ (1200 : ℤ) ≤ 10 ^ (400 : ℤ) := by
    rw [show (1200 : ℤ) = 3 * 400 by norm_num, zpow_mul]
    exact zpow_le_zpow_left₀ (by norm_num) (by norm_num) (by norm_num)
  constructor
  · have hone : (1 : ℚ) ≤ (neighbourhood d).low := by
      have hm : (1 : ℚ) ≤ d.mantissa := by exact_mod_cast hpos
      rw [low_neighbourhood hpos]
      split <;> linarith
    calc (10 : ℚ) ^ (-400 : ℤ) ≤ 2 ^ (-1200 : ℤ) := by
          rw [zpow_neg, zpow_neg]
          exact inv_anti₀ (by positivity) hpowers
      _ < 2 ^ (d.exponent - 2) := zpow_lt_zpow_right₀ (by norm_num) (by omega)
      _ ≤ (neighbourhood d).low * 2 ^ (d.exponent - 2) := le_mul_of_one_le_left hunit.le hone
      _ ≤ x := hlow
  · have hlast : ((neighbourhood d).high : ℚ) ≤ 2 ^ 55 := by
      have hm : (d.mantissa : ℚ) + 1 ≤ 2 ^ 53 := by exact_mod_cast hd.mantissa_lt
      rw [high_neighbourhood]
      linarith
    calc x ≤ (neighbourhood d).high * 2 ^ (d.exponent - 2) := hhigh
      _ ≤ 2 ^ 55 * 2 ^ (969 : ℤ) := by
        apply mul_le_mul hlast (zpow_le_zpow_right₀ (by norm_num) (by omega)) hunit.le
        norm_num
      _ < 2 ^ (1200 : ℤ) := by
        rw [← zpow_natCast, ← zpow_add₀ two_ne_zero]
        exact zpow_lt_zpow_right₀ (by norm_num) (by norm_num)
      _ ≤ 10 ^ (400 : ℤ) := hpowers

theorem length_digitChars_le_log2 {n : Nat} : (digitChars n).length ≤ n.log2 + 1 :=
  (length_digitChars_le (Nat.succ_pos _)).2
    (lt_of_lt_of_le Nat.lt_log2_self (Nat.pow_le_pow_left (by decide) _))

/-- A power of ten as a factor or, if it is negative, as a divisor. -/
theorem scientific_eq {digits : Nat} {exponent : ℤ} :
    (if decide (exponent < 0) then (digits : ℚ) / 10 ^ exponent.natAbs
      else digits * 10 ^ exponent.natAbs) = digits * 10 ^ exponent := by
  by_cases hnegative : exponent < 0
  · rw [decide_eq_true hnegative, if_pos rfl, div_eq_mul_inv, ← zpow_natCast, ← zpow_neg]
    congr 2
    omega
  · rw [decide_eq_false hnegative, if_neg Bool.false_ne_true, ← zpow_natCast]
    congr 2
    omega

section Decimals

variable {digits : Nat} {exponent : ℤ}

theorem Dyadic.Covers.digits_pos (h : d.Covers (digits * 10 ^ exponent)) (hpos : 0 < d.mantissa) :
    0 < digits := by
  refine Nat.pos_of_ne_zero fun hzero => (h.pos hpos).ne' ?_
  rw [hzero, Nat.cast_zero, zero_mul]

/-- The digits of a decimal in the interval of a magnitude do not begin far from the point. -/
theorem Dyadic.Covers.size (h : d.Covers (digits * 10 ^ exponent)) (hd : d.Stored)
    (hle : d.exponent ≤ 971) (hpos : 0 < d.mantissa) :
    -400 < (digitChars digits).length + exponent ∧
      (digitChars digits).length + exponent - 1 < 400 := by
  have hten : (1 : ℚ) < 10 := by norm_num
  obtain ⟨hlow, hhigh⟩ := h.range hd hle hpos
  obtain ⟨hpower, hpower'⟩ := zpow_size_le (k := exponent) (h.digits_pos hpos)
  exact ⟨(zpow_lt_zpow_iff_right₀ hten).1 (hlow.trans hpower'),
    (zpow_lt_zpow_iff_right₀ hten).1 (hpower.trans_lt hhigh)⟩

/-- A decimal in the interval of a magnitude is read as that magnitude. -/
theorem ofDecimal_of_covers (hd : d.Stored) (hle : d.exponent ≤ 971) (hpos : 0 < d.mantissa)
    (h : d.Covers (digits * 10 ^ exponent)) : ofDecimal digits exponent = d.toFloat false := by
  have hdigits := h.digits_pos hpos
  obtain ⟨hlow, hhigh⟩ := h.size hd hle hpos
  have hlength := length_digitChars_le_log2 (n := digits)
  have hlength' := length_digitChars_pos (n := digits)
  -- The exponent is in the range in which no decimal is taken for zero or for infinity.
  have hguard : if decide (exponent < 0) then
      0 < exponent.natAbs ∧ exponent.natAbs ≤ 2048 + digits.log2 else exponent.natAbs ≤ 2048 := by
    by_cases hnegative : exponent < 0
    · rw [decide_eq_true hnegative, if_pos rfl]
      omega
    · rw [decide_eq_false hnegative, if_neg Bool.false_ne_true]
      omega
  unfold ofDecimal
  dsimp only
  rw [if_neg (by simp; omega), if_neg (by omega), ofScientific_eq hdigits hguard, scientific_eq,
    nearest_of_covers hd hpos h]

end Decimals

/-- Zero is read from its digits, whatever the power of ten. -/
theorem ofDecimal_zero {exponent : ℤ} (hzero : d.mantissa = 0) :
    ofDecimal 0 exponent = d.toFloat false := by
  unfold ofDecimal Dyadic.toFloat Dyadic.unpacked
  rw [if_pos (by simp), dif_pos hzero]
  decide

theorem withSign_toFloat {negative : Bool} (hd : d.Stored) (hle : d.exponent ≤ 971) :
    withSign negative (d.toFloat false) = d.toFloat negative := by
  cases negative
  · rfl
  · have hunpack := unpack_of_isFinite (@isFinite_toFloat false _ hd hle)
    rw [magnitude_toFloat hd hle, signBit_toFloat hd hle] at hunpack
    have hneg : (d.unpacked false).neg = d.unpacked true := by
      unfold Dyadic.unpacked
      split <;> rfl
    show (⟨Float.Model.pack (d.toFloat false).toModel.unpack.neg⟩ : Float) = _
    rw [hunpack, hneg]
    rfl

end PhysicsLab.Number
