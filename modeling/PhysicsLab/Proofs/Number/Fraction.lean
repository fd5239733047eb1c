import PhysicsLab.Number.Arithmetic
import PhysicsLab.Proofs.Number.Signed

/-!
# Numbers between zero and one

Rounding keeps the order, so what lies between zero and one in the rationals does so when it is
computed: products of such numbers, parts of a total, and reciprocals of what is at least one.

Numbers that are not negative may also be infinite, or become so.  They have a product unless one is
zero and the other infinite, and one plus such a number has a reciprocal between zero and one.

## Main definitions

* `IsFraction` — a number from zero to one
* `IsAmount` — zero, a positive number or infinity

## Main statements

* `IsFraction.mul`, `isFraction_ratio`
* `ratio_eq_one_iff` — a part that is the whole when computed
* `IsAmount.mul_cases`, `isFraction_inverse`
-/

namespace PhysicsLab.Number

open Float.Model (Format UnpackedFloat)
open Float.Model.UnpackedFloat (Sign)

variable {x y : ℚ} {u v : Float}

/-! ## §1 Fractions -/

theorem isExact_zero : IsExact 0 0.0 := ⟨rfl, rfl, by
  rw [absolute, Dyadic.toRat, show (magnitude 0.0).mantissa = 0 from rfl, Nat.cast_zero, zero_mul]⟩

theorem isExact_one : IsExact 1 1.0 := by
  have hexact := isExact_of_magnitude (u := 1.0) (d := ⟨4503599627370496, -52⟩) rfl rfl rfl
  rwa [show Dyadic.toRat ⟨4503599627370496, -52⟩ = 1 by norm_num [Dyadic.toRat]] at hexact

theorem IsExact.nonneg (h : IsExact x u) : 0 ≤ x := by
  rw [← h.value, absolute, Dyadic.toRat]
  positivity

theorem IsExact.le_iff (hu : IsExact x u) (hv : IsExact y v) : u ≤ v ↔ x ≤ y := by
  rw [le_iff_rational hu.finite hv.finite, hu.rational_eq, hv.rational_eq]

/-- A positive number is the one nearest to itself. -/
theorem IsExact.toFloat_nearest (h : IsExact x u) (hx : 0 < x) :
    (nearest x).toFloat false = u := by
  have hself : nearest x = magnitude u := by
    rw [← h.value]
    exact nearest_toRat magnitude_stored (h.mantissa_pos hx)
  rw [hself, ← h.sign]
  exact toFloat_magnitude h.finite

/-- A number from zero to one. -/
def IsFraction (u : Float) : Prop := ∃ x ≤ 1, IsExact x u

theorem isFraction_zero : IsFraction 0.0 := ⟨0, zero_le_one, isExact_zero⟩

theorem isFraction_one : IsFraction 1.0 := ⟨1, le_rfl, isExact_one⟩

/-- Rounding does not lead past one. -/
theorem isFraction_nearest (hx : 0 < x) (hle : x ≤ 1) : IsFraction ((nearest x).toFloat false) :=
  ⟨_, (toRat_nearest_mono hx hle).trans_eq toRat_nearest_one,
    isExact_toFloat hx (lt_huge (hle.trans_lt (by norm_num)))⟩

namespace IsFraction

theorem bounds (h : IsFraction u) : 0.0 ≤ u ∧ u ≤ 1.0 := by
  obtain ⟨x, hle, hu⟩ := h
  exact ⟨(isExact_zero.le_iff hu).2 hu.nonneg, (hu.le_iff isExact_one).2 hle⟩

theorem not_isNaN (h : IsFraction u) : u.isNaN = false := by
  obtain ⟨x, -, hu⟩ := h
  exact isNaN_of_isFinite hu.finite

end IsFraction

/-- A finite number that is zero without a sign, or is multiplied by it, gives zero. -/
theorem zero_mul_of_isExact (h : IsExact x u) : 0.0 * u = 0.0 ∧ u * 0.0 = 0.0 := by
  have hunpack := unpack_of_isFinite h.finite
  rw [h.sign, Dyadic.unpacked] at hunpack
  have hleft : 0.0 * u = ⟨Float.Model.pack (UnpackedFloat.mul Format.binary64 (.zero .positive)
    u.toModel.unpack)⟩ := rfl
  have hright : u * 0.0 = ⟨Float.Model.pack (UnpackedFloat.mul Format.binary64 u.toModel.unpack
    (.zero .positive))⟩ := rfl
  rw [hleft, hright, hunpack]
  split <;> exact ⟨rfl, rfl⟩

theorem IsFraction.mul (hu : IsFraction u) (hv : IsFraction v) : IsFraction (u * v) := by
  obtain ⟨x, hx, hu⟩ := hu
  obtain ⟨y, hy, hv⟩ := hv
  obtain rfl | hxpos := hu.nonneg.eq_or_lt
  · rw [hu.unique isExact_zero, (zero_mul_of_isExact hv).1]
    exact isFraction_zero
  · obtain rfl | hypos := hv.nonneg.eq_or_lt
    · rw [hv.unique isExact_zero, (zero_mul_of_isExact hu).2]
      exact isFraction_zero
    · rw [hu.mul hv hxpos hypos]
      exact isFraction_nearest (by positivity) (mul_le_one₀ hx hypos.le hy)

theorem IsFraction.mul_by_one (h : IsFraction u) : u * 1.0 = u := by
  obtain ⟨x, -, hu⟩ := h
  obtain rfl | hx := hu.nonneg.eq_or_lt
  · rw [hu.unique isExact_zero]
    rfl
  · rw [hu.mul isExact_one hx one_pos, mul_one, hu.toFloat_nearest hx]

/-! ## §2 Parts of a total -/

section Ratio

variable {part total n : Nat}

/-- A count that is not too large is stored as it is. -/
theorem isExact_ofNat (hn : n < 2 ^ 53) : IsExact n (Float.ofNat n) := by
  obtain rfl | hpos := Nat.eq_zero_or_pos n
  · rw [Nat.cast_zero]
    exact isExact_zero
  · have hpos' : (0 : ℚ) < n := by exact_mod_cast hpos
    have hsize : (n : ℚ) < 2 ^ 128 := by exact_mod_cast hn.trans (by norm_num)
    have hexact := isExact_toFloat hpos' (lt_huge hsize)
    rwa [toRat_nearest_natCast hpos hn, ← ofNat_eq hpos] at hexact

theorem ratio_zero (htotal : 0 < total) (hlt : total < 2 ^ 53) : ratio 0 total = 0.0 := by
  have hexact := isExact_ofNat hlt
  have hpos := hexact.mantissa_pos (by exact_mod_cast htotal)
  have hdiv : ratio 0 total = ⟨Float.Model.pack (UnpackedFloat.div Format.binary64
      (.zero .positive) (Float.ofNat total).toModel.unpack)⟩ := if_neg htotal.ne'
  rw [hdiv, unpack_of_isFinite hexact.finite, hexact.sign, unpacked_of_pos hpos]
  rfl

/-- A positive part of a total is rounded once. -/
theorem ratio_eq (hpart : 0 < part) (hle : part ≤ total) (hlt : total < 2 ^ 53) :
    ratio part total = (nearest (part / total : ℚ)).toFloat false := by
  have htotal : 0 < total := hpart.trans_le hle
  have hdiv : ratio part total = Float.ofNat part / Float.ofNat total := if_neg htotal.ne'
  rw [hdiv, (isExact_ofNat (hle.trans_lt hlt)).div (isExact_ofNat hlt) (by exact_mod_cast hpart)
    (by exact_mod_cast htotal)]

theorem isFraction_ratio (hle : part ≤ total) (hlt : total < 2 ^ 53) :
    IsFraction (ratio part total) := by
  obtain rfl | htotal := Nat.eq_zero_or_pos total
  · exact isFraction_one
  · have htotal' : (0 : ℚ) < total := by exact_mod_cast htotal
    obtain rfl | hpart := Nat.eq_zero_or_pos part
    · rw [ratio_zero htotal hlt]
      exact isFraction_zero
    · rw [ratio_eq hpart hle hlt]
      have hpart' : (0 : ℚ) < part := by exact_mod_cast hpart
      exact isFraction_nearest (by positivity) ((div_le_one htotal').2 (by exact_mod_cast hle))

/-- The number before one is 2⁻⁵³ below it. -/
theorem toRat_nearest_lt_one (hx : 0 < x) (hle : x ≤ 1 - 1 / 2 ^ 53) : (nearest x).toRat < 1 := by
  have hstored : (⟨2 ^ 53 - 1, -53⟩ : Dyadic).Stored :=
    ⟨by norm_num, by norm_num, .inl (by norm_num)⟩
  have hvalue : (⟨2 ^ 53 - 1, -53⟩ : Dyadic).toRat = 1 - 1 / 2 ^ 53 := by norm_num [Dyadic.toRat]
  have hself := nearest_toRat hstored (by norm_num)
  have hmono := toRat_nearest_mono hx hle
  rw [← hvalue, hself, hvalue] at hmono
  exact hmono.trans_lt (by norm_num)

/-- Up to 2⁵³ a part is the whole only if nothing is missing.  Beyond, counts are rounded. -/
theorem ratio_eq_one_iff (hle : part ≤ total) (hlt : total < 2 ^ 53) :
    ratio part total = 1.0 ↔ part = total := by
  obtain rfl | htotal := Nat.eq_zero_or_pos total
  · exact ⟨fun _ => Nat.le_zero.1 hle, fun _ => rfl⟩
  · have htotal' : (0 : ℚ) < total := by exact_mod_cast htotal
    constructor
    · intro hone
      by_contra hne
      have hless : part < total := lt_of_le_of_ne hle hne
      obtain rfl | hpart := Nat.eq_zero_or_pos part
      · rw [ratio_zero htotal hlt] at hone
        exact absurd hone (by decide)
      · have hpart' : (0 : ℚ) < part := by exact_mod_cast hpart
        -- What is missing is one part at least, and there are at most 2⁵³ of them.
        have hbelow : (part / total : ℚ) ≤ 1 - 1 / 2 ^ 53 := by
          have hstep : (part : ℚ) + 1 ≤ total := by exact_mod_cast hless
          have hsize : (total : ℚ) ≤ 2 ^ 53 := by exact_mod_cast hlt.le
          rw [div_le_iff₀ htotal']
          have hunit : 1 / 2 ^ 53 * (total : ℚ) ≤ 1 := by linarith
          linarith
        have hpos : (0 : ℚ) < part / total := by positivity
        have hexact := isExact_toFloat hpos (lt_huge (hbelow.trans_lt (by norm_num)))
        rw [← ratio_eq hpart hle hlt, hone] at hexact
        exact (toRat_nearest_lt_one hpos hbelow).ne (hexact.value.symm.trans isExact_one.value)
    · rintro rfl
      rw [ratio_eq htotal le_rfl hlt, div_self htotal'.ne', isExact_one.toFloat_nearest one_pos]

end Ratio

/-! ## §3 Amounts -/

/-- A number that is not negative: zero with either sign, a positive number, or infinity. -/
inductive IsAmount (u : Float) : Prop where
  | zero (s : Sign) (h : u.toModel.unpack = .zero s)
  | positive (x : ℚ) (hx : 0 < x) (h : IsExact x u)
  | infinite (h : u.toModel.unpack = .infinity .positive)

theorem isAmount_of_isFinite (hfinite : u.isFinite = true)
    (hsign : (magnitude u).mantissa ≠ 0 → signBit u = false) : IsAmount u := by
  by_cases hm : (magnitude u).mantissa = 0
  · refine .zero (signOf (signBit u)) ?_
    rw [unpack_of_isFinite hfinite, Dyadic.unpacked, dif_pos hm]
  · exact .positive _ (mantissa_pos_iff.1 (Nat.pos_of_ne_zero hm)) ⟨hfinite, hsign hm, rfl⟩

/-- What is rounded to is finite, or infinite where it is too large to be stored. -/
theorem isAmount_nearest (hx : 0 < x) : IsAmount ((nearest x).toFloat false) := by
  have hstored := nearest_stored hx
  obtain hle | hhuge := le_or_gt (nearest x).exponent 971
  · exact isAmount_of_isFinite (isFinite_toFloat hstored hle) fun _ => signBit_toFloat hstored hle
  · exact .infinite (unpack_toFloat_of_huge hstored hhuge)

/-- Counts that are too large to be stored are infinite. -/
theorem isAmount_ofNat (n : Nat) : IsAmount (Float.ofNat n) := by
  obtain rfl | hn := Nat.eq_zero_or_pos n
  · exact .zero .positive rfl
  · rw [ofNat_eq hn]
    exact isAmount_nearest (by exact_mod_cast hn)

/-- What passes the check of a lower bound of zero, and is not NaN. -/
theorem isAmount_of_not_lt (hnan : u.isNaN = false) (h : ¬ u < 0.0) : IsAmount u := by
  have hzero : (0.0 : Float).toModel.unpack = .zero .positive := rfl
  rw [float_lt_iff, hzero] at h
  by_cases hfinite : u.isFinite = true
  · refine isAmount_of_isFinite hfinite fun hm => ?_
    rw [unpack_of_isFinite hfinite, unpacked_of_pos (Nat.pos_of_ne_zero hm)] at h
    cases hsign : signBit u with
    | false => rfl
    | true =>
      rw [hsign] at h
      exact absurd rfl h
  · cases hunpack : u.toModel.unpack with
    | notANumber =>
      have hu : u.isNaN = true := congrArg UnpackedFloat.isNaN hunpack
      exact absurd (hu.symm.trans hnan) Bool.noConfusion
    | infinity s =>
      cases s with
      | positive => exact .infinite hunpack
      | negative =>
        rw [hunpack] at h
        exact absurd rfl h
    | zero s => exact absurd (congrArg UnpackedFloat.isFinite hunpack) hfinite
    | finite s m e hm => exact absurd (congrArg UnpackedFloat.isFinite hunpack) hfinite

/-! ### Products -/

/-- Of two numbers one is infinite and the other one zero. -/
def Clash (u v : Float) : Prop :=
  (u.isInf = true ∧ (v == 0.0) = true) ∨ ((u == 0.0) = true ∧ v.isInf = true)

section Products

variable {a b : UnpackedFloat}

theorem clash_iff (hu : u.toModel.unpack = a) (hv : v.toModel.unpack = b) :
    Clash u v ↔ (a.isInf = true ∧ b.beq (.zero .positive) = true) ∨
      (a.beq (.zero .positive) = true ∧ b.isInf = true) := by
  subst hu hv
  rfl

theorem float_mul_eq (hu : u.toModel.unpack = a) (hv : v.toModel.unpack = b) :
    u * v = ⟨Float.Model.pack (UnpackedFloat.mul Format.binary64 a b)⟩ := by
  subst hu hv
  rfl

theorem float_add_eq (hu : u.toModel.unpack = a) (hv : v.toModel.unpack = b) :
    u + v = ⟨Float.Model.pack (UnpackedFloat.add Format.binary64 a b)⟩ := by
  subst hu hv
  rfl

theorem float_div_eq (hu : u.toModel.unpack = a) (hv : v.toModel.unpack = b) :
    u / v = ⟨Float.Model.pack (UnpackedFloat.div Format.binary64 a b)⟩ := by
  subst hu hv
  rfl

theorem isNaN_pack_notANumber : (⟨Float.Model.pack .notANumber⟩ : Float).isNaN = true := rfl

theorem unpack_pack_zero (s : Sign) : (Float.Model.pack (.zero s)).unpack = .zero s := by
  cases s <;> rfl

theorem IsExact.unpack_eq (h : IsExact x u) (hx : 0 < x) : u.toModel.unpack =
    .finite .positive (magnitude u).mantissa (magnitude u).exponent (h.mantissa_pos hx) := by
  rw [unpack_of_isFinite h.finite, unpacked_of_pos (h.mantissa_pos hx), h.sign]
  rfl

theorem IsExact.isInf_eq_false (h : IsExact x u) : u.isInf = false := by
  show u.toModel.unpack.isInf = false
  rw [unpack_of_isFinite h.finite, Dyadic.unpacked]
  split <;> rfl

theorem IsExact.beq_zero_eq_false (h : IsExact x u) (hx : 0 < x) : (u == 0.0) = false := by
  show u.toModel.unpack.beq (.zero .positive) = false
  rw [h.unpack_eq hx]
  rfl

theorem unpack_pack_infinity :
    (Float.Model.pack (.infinity .positive)).unpack = .infinity .positive := rfl

/-- Two amounts have a product unless they clash.  Only zero and infinity do, in either order. -/
theorem IsAmount.mul_cases (hu : IsAmount u) (hv : IsAmount v) :
    (Clash u v ∧ (u * v).isNaN = true) ∨ (¬ Clash u v ∧ IsAmount (u * v)) := by
  cases hu with
  | zero s hu =>
    cases hv with
    | zero s' hv =>
      rw [clash_iff hu hv, float_mul_eq hu hv]
      exact .inr ⟨(by rintro (⟨h, -⟩ | ⟨-, h⟩) <;> cases h), .zero _ (unpack_pack_zero _)⟩
    | positive y hy hv =>
      rw [clash_iff hu (hv.unpack_eq hy), float_mul_eq hu (hv.unpack_eq hy)]
      exact .inr ⟨(by rintro (⟨h, -⟩ | ⟨-, h⟩) <;> cases h), .zero _ (unpack_pack_zero _)⟩
    | infinite hv =>
      rw [clash_iff hu hv, float_mul_eq hu hv]
      exact .inl ⟨.inr ⟨rfl, rfl⟩, isNaN_pack_notANumber⟩
  | positive x hx hu =>
    cases hv with
    | zero s' hv =>
      rw [clash_iff (hu.unpack_eq hx) hv, float_mul_eq (hu.unpack_eq hx) hv]
      exact .inr ⟨(by rintro (⟨h, -⟩ | ⟨-, h⟩) <;> cases h), .zero _ (unpack_pack_zero _)⟩
    | positive y hy hv =>
      rw [clash_iff (hu.unpack_eq hx) (hv.unpack_eq hy), hu.mul hv hx hy]
      exact .inr ⟨(by rintro (⟨h, -⟩ | ⟨-, h⟩) <;> cases h), isAmount_nearest (by positivity)⟩
    | infinite hv =>
      rw [clash_iff (hu.unpack_eq hx) hv, float_mul_eq (hu.unpack_eq hx) hv]
      exact .inr ⟨(by rintro (⟨h, -⟩ | ⟨h, -⟩) <;> cases h), .infinite unpack_pack_infinity⟩
  | infinite hu =>
    cases hv with
    | zero s' hv =>
      rw [clash_iff hu hv, float_mul_eq hu hv]
      exact .inl ⟨.inl ⟨rfl, rfl⟩, isNaN_pack_notANumber⟩
    | positive y hy hv =>
      rw [clash_iff hu (hv.unpack_eq hy), float_mul_eq hu (hv.unpack_eq hy)]
      exact .inr ⟨(by rintro (⟨-, h⟩ | ⟨-, h⟩) <;> cases h), .infinite unpack_pack_infinity⟩
    | infinite hv =>
      rw [clash_iff hu hv, float_mul_eq hu hv]
      exact .inr ⟨(by rintro (⟨-, h⟩ | ⟨h, -⟩) <;> cases h), .infinite unpack_pack_infinity⟩

/-! ### Reciprocals -/

theorem one_add_of_zero {s : Sign} (h : u.toModel.unpack = .zero s) : 1.0 + u = 1.0 := by
  rw [float_add_eq rfl h]
  rfl

/-- One and an amount are at least one, or infinite. -/
theorem one_add_cases (h : IsAmount u) : (∃ y, 1 ≤ y ∧ IsExact y (1.0 + u)) ∨
    (1.0 + u).toModel.unpack = .infinity .positive := by
  cases h with
  | zero s h =>
    rw [one_add_of_zero h]
    exact .inl ⟨1, le_rfl, isExact_one⟩
  | positive x hx h =>
    have hsum : 0 < rational 1.0 + rational u := by
      rw [isExact_one.rational_eq, h.rational_eq]
      positivity
    rw [float_add isExact_one.finite h.finite hsum, isExact_one.rational_eq, h.rational_eq]
    rw [isExact_one.rational_eq, h.rational_eq] at hsum
    have hstored := nearest_stored hsum
    obtain hle | hhuge := le_or_gt (nearest (1 + x)).exponent 971
    · have hmono := toRat_nearest_mono one_pos (le_add_of_nonneg_right hx.le : (1 : ℚ) ≤ 1 + x)
      rw [toRat_nearest_one] at hmono
      exact .inl ⟨_, hmono, hstored.isExact hle⟩
    · exact .inr (unpack_toFloat_of_huge hstored hhuge)
  | infinite h =>
    rw [float_add_eq rfl h]
    exact .inr rfl

/-- The reciprocal of one and an amount is from zero to one. -/
theorem isFraction_inverse (h : IsAmount u) : IsFraction (1.0 / (1.0 + u)) := by
  obtain ⟨y, hy, hexact⟩ | hinfinite := one_add_cases h
  · have hpos : 0 < y := one_pos.trans_le hy
    rw [isExact_one.div hexact one_pos hpos]
    exact isFraction_nearest (by positivity) ((div_le_one hpos).2 hy)
  · rw [float_div_eq rfl hinfinite]
    exact isFraction_zero

/-! ### Not a number -/

theorem isNaN_mul_left (h : u.isNaN = true) : (u * v).isNaN = true := by
  rw [float_mul_eq (unpack_of_isNaN h) rfl]
  exact isNaN_pack_notANumber

theorem isNaN_mul_right (h : v.isNaN = true) : (u * v).isNaN = true := by
  rw [float_mul_eq rfl (unpack_of_isNaN h)]
  cases u.toModel.unpack <;> exact isNaN_pack_notANumber

theorem isNaN_inverse (h : u.isNaN = true) : (1.0 / (1.0 + u)).isNaN = true := by
  rw [float_add_eq rfl (unpack_of_isNaN h)]
  rfl

end Products

end PhysicsLab.Number
