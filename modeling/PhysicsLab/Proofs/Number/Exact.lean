import Mathlib.Tactic.GCongr
import Mathlib.Tactic.NormNum
import PhysicsLab.Proofs.Number.Rounding

/-!
# Arithmetic of positive numbers

A product or quotient of positive numbers is the number nearest to the product or quotient of the
rationals that they stand for.  A decimal is the number nearest to it, whether it is short enough to
be computed from exact numbers or not.  Comparisons of positive numbers are those of the rationals.

## Main definitions

* `absolute` — the rational that a finite number stands for, without its sign
* `IsExact` — a number stands for a rational that is not negative

## Main statements

* `IsExact.mul`, `IsExact.div`, `ofScientific_eq` — results of operations
* `exact_of_range` — what a number is that no range check rejects
* `IsExact.toCount_le`, `IsExact.le_toCount` — a number as a count
-/

namespace PhysicsLab.Number

open Float.Model (Format UnpackedFloat)
open Float.Model.UnpackedFloat (Sign)

variable {x : ℚ} {d : Dyadic}

/-! ## §1 Products and quotients -/

theorem le_lastPlace_of_full {m : Nat} {e : ℤ} (hm : 0 < m) (hfull : 2 ^ 52 ≤ m ∨ e ≤ -1074) :
    e ≤ lastPlace (m * 2 ^ e) := by
  have hm' : (0 : ℚ) < m := by exact_mod_cast hm
  have hx : (0 : ℚ) < m * 2 ^ e := by positivity
  obtain hfull | hmin := hfull
  · have hlow : (2 : ℚ) ^ (e + 52) ≤ m * 2 ^ e := by
      rw [zpow_add₀ two_ne_zero, mul_comm]
      exact mul_le_mul_of_nonneg_right (by exact_mod_cast hfull) (by positivity)
    have hlog : e + 52 ≤ Int.log 2 ((m : ℚ) * 2 ^ e) :=
      (Int.zpow_le_iff_le_log one_lt_two hx).1 (by exact_mod_cast hlow)
    unfold lastPlace
    omega
  · exact hmin.trans le_lastPlace

/-- A product is rounded to the magnitude nearest to it. -/
theorem mul_finite {a b : Bool} {m n : Nat} {e f : ℤ} (hm : 0 < m) (hn : 0 < n)
    (hfull : 2 ^ 52 ≤ m * n ∨ e + f ≤ -1074) :
    UnpackedFloat.mul Format.binary64 (.finite (signOf a) m e hm) (.finite (signOf b) n f hn) =
      (nearest (m * 2 ^ e * (n * 2 ^ f))).unpacked (a ^^ b) := by
  have hproduct : (m : ℚ) * 2 ^ e * (n * 2 ^ f) = (m * n : Nat) * 2 ^ (e + f) := by
    rw [zpow_add₀ two_ne_zero]
    push_cast
    ring
  have hsign : signOf a * signOf b = signOf (a ^^ b) := by
    cases a <;> cases b <;> rfl
  have hpos : 0 < m * n := Nat.mul_pos hm hn
  have hpos' : (0 : ℚ) < (m * n : Nat) := by exact_mod_cast hpos
  show UnpackedFloat.roundWithAccuracy Format.binary64 (signOf a * signOf b) (m * n) (e + f)
    .exact = _
  rw [hsign, hproduct]
  apply roundWithAccuracy_eq (by positivity)
  · rw [mul_div_cancel_right₀ _ (by positivity)]
    exact represents_exact
  · exact le_lastPlace_of_full hpos hfull

/-- A quotient is rounded to the magnitude nearest to it. -/
theorem div_finite {a b : Bool} {m n : Nat} {e f : ℤ} (hm : 0 < m) (hn : 0 < n) :
    UnpackedFloat.div Format.binary64 (.finite (signOf a) m e hm) (.finite (signOf b) n f hn) =
      (nearest (m * 2 ^ e / (n * 2 ^ f))).unpacked (a ^^ b) := by
  have hm' : (0 : ℚ) < m := by exact_mod_cast hm
  have hn' : (0 : ℚ) < n := by exact_mod_cast hn
  have hsign : signOf a / signOf b = signOf (a ^^ b) := by
    cases a <;> cases b <;> rfl
  have hq : (0 : ℚ) < m * 2 ^ e / (n * 2 ^ f) := by positivity
  -- The exponent of the quotient before it is rounded.
  set t : ℤ := min (e - f) (Format.binary64.targetExponent
    (Float.Model.totalExponent m e - Float.Model.totalExponent n f)) with ht
  have hshift : ((e - f - t).toNat : ℤ) = e - f - t := by omega
  set k := (e - f - t).toNat with hk
  show UnpackedFloat.roundWithAccuracy Format.binary64 (signOf a / signOf b) (m <<< k / n) t
    (UnpackedFloat.accuracyOfFraction (m <<< k % n) n) = _
  rw [hsign]
  apply roundWithAccuracy_eq hq
  · have hquotient : (m : ℚ) * 2 ^ e / (n * 2 ^ f) / 2 ^ t =
        (m <<< k / n : Nat) + ((m <<< k % n : Nat) : ℚ) / n := by
      have hscale : (m : ℚ) * 2 ^ e / (n * 2 ^ f) / 2 ^ t = (m <<< k : Nat) / n := by
        have hpow : (2 : ℚ) ^ e = 2 ^ k * 2 ^ f * 2 ^ t := by
          rw [← zpow_natCast, hshift, ← zpow_add₀ two_ne_zero, ← zpow_add₀ two_ne_zero]
          ring_nf
        rw [Nat.shiftLeft_eq, hpow]
        push_cast
        field_simp
      have hsplit : ((m <<< k : Nat) : ℚ) = n * (m <<< k / n : Nat) + (m <<< k % n : Nat) := by
        exact_mod_cast (Nat.div_add_mod (m <<< k) n).symm
      rw [hscale, hsplit]
      field_simp
    rw [hquotient]
    exact represents_accuracy hn (Nat.mod_lt _ hn)
  · -- The quotient has at most one place less than the difference of the lengths says.
    have hle : t ≤ max ((m.log2 : ℤ) + e - (n.log2 + f) - 53) (-1074) := by
      have htarget : Format.binary64.targetExponent
          (Float.Model.totalExponent m e - Float.Model.totalExponent n f) =
            max ((m.log2 : ℤ) + 1 + e - (n.log2 + 1 + f) - 53) (-1074) := rfl
      omega
    have hlow : (2 : ℚ) ^ ((m.log2 : ℤ) + e - (n.log2 + f) - 1) ≤ m * 2 ^ e / (n * 2 ^ f) := by
      have hmpow : (2 : ℚ) ^ m.log2 ≤ m := by exact_mod_cast Nat.log2_self_le hm.ne'
      have hnpow : (n : ℚ) ≤ 2 ^ (n.log2 + 1) := by exact_mod_cast (Nat.lt_log2_self).le
      rw [le_div_iff₀ (by positivity)]
      calc (2 : ℚ) ^ ((m.log2 : ℤ) + e - (n.log2 + f) - 1) * (n * 2 ^ f)
          ≤ 2 ^ ((m.log2 : ℤ) + e - (n.log2 + f) - 1) * (2 ^ (n.log2 + 1) * 2 ^ f) := by
            gcongr
        _ = 2 ^ m.log2 * 2 ^ e := by
            rw [← zpow_natCast, ← zpow_natCast, ← zpow_add₀ two_ne_zero, ← zpow_add₀ two_ne_zero,
              ← zpow_add₀ two_ne_zero]
            congr 1
            push_cast
            ring
        _ ≤ m * 2 ^ e := by gcongr
    have hlog := (Int.zpow_le_iff_le_log one_lt_two hq).1 (by exact_mod_cast hlow)
    unfold lastPlace
    omega

/-! ## §2 Numbers -/

variable {u v : Float}

/-- The absolute value of a finite number. -/
def absolute (u : Float) : ℚ := (magnitude u).toRat

theorem unpack_of_isFinite (hu : u.isFinite = true) :
    u.toModel.unpack = (magnitude u).unpacked (signBit u) := by
  rw [unpack_eq, if_neg (isFinite_iff.1 hu)]

theorem isNaN_of_isFinite (hu : u.isFinite = true) : u.isNaN = false := by
  show u.toModel.unpack.isNaN = false
  rw [unpack_of_isFinite hu, Dyadic.unpacked]
  split <;> rfl

theorem unpack_of_isNaN (hu : u.isNaN = true) : u.toModel.unpack = .notANumber := by
  have hnan : u.toModel.unpack.isNaN = true := hu
  cases hcases : u.toModel.unpack with
  | notANumber => rfl
  | infinity | zero | finite =>
    rw [hcases] at hnan
    cases hnan

theorem unpacked_of_pos {negative : Bool} (hpos : 0 < d.mantissa) :
    d.unpacked negative = .finite (signOf negative) d.mantissa d.exponent hpos :=
  dif_neg hpos.ne'

theorem float_mul (hu : u.isFinite = true) (hv : v.isFinite = true)
    (hum : 0 < (magnitude u).mantissa) (hvm : 0 < (magnitude v).mantissa) :
    u * v = (nearest (absolute u * absolute v)).toFloat (signBit u ^^ signBit v) := by
  have hfull : 2 ^ 52 ≤ (magnitude u).mantissa * (magnitude v).mantissa ∨
      (magnitude u).exponent + (magnitude v).exponent ≤ -1074 := by
    obtain h | h := (magnitude_stored (x := u)).full
    · exact .inl (h.trans (Nat.le_mul_of_pos_right _ hvm))
    · obtain h' | h' := (magnitude_stored (x := v)).full
      · exact .inl (h'.trans (Nat.le_mul_of_pos_left _ hum))
      · right
        omega
  show (⟨Float.Model.pack (UnpackedFloat.mul Format.binary64 u.toModel.unpack v.toModel.unpack)⟩ :
    Float) = _
  rw [unpack_of_isFinite hu, unpack_of_isFinite hv, unpacked_of_pos hum, unpacked_of_pos hvm,
    mul_finite hum hvm hfull]
  rfl

theorem float_div (hu : u.isFinite = true) (hv : v.isFinite = true)
    (hum : 0 < (magnitude u).mantissa) (hvm : 0 < (magnitude v).mantissa) :
    u / v = (nearest (absolute u / absolute v)).toFloat (signBit u ^^ signBit v) := by
  show (⟨Float.Model.pack (UnpackedFloat.div Format.binary64 u.toModel.unpack v.toModel.unpack)⟩ :
    Float) = _
  rw [unpack_of_isFinite hu, unpack_of_isFinite hv, unpacked_of_pos hum, unpacked_of_pos hvm,
    div_finite hum hvm]
  rfl


/-! ## §3 Whole numbers and decimals -/

theorem model_round_eq {negative : Bool} {m : Nat} {e : ℤ} (hm : 0 < m) :
    UnpackedFloat.round Format.binary64 (signOf negative) m e =
      (nearest (m * 2 ^ e)).unpacked negative := by
  have hm' : (0 : ℚ) < m := by exact_mod_cast hm
  have hx : (0 : ℚ) < m * 2 ^ e := by positivity
  set t := Format.binary64.targetExponent (Float.Model.totalExponent m e) with ht
  have hplace : t ≤ lastPlace (m * 2 ^ e) := by
    have hlow : (2 : ℚ) ^ ((m.log2 : ℤ) + e) ≤ m * 2 ^ e := by
      have hpow : (2 : ℚ) ^ m.log2 ≤ m := by exact_mod_cast Nat.log2_self_le hm.ne'
      rw [zpow_add₀ two_ne_zero, zpow_natCast]
      gcongr
    have hlog := (Int.zpow_le_iff_le_log one_lt_two hx).1 (by exact_mod_cast hlow)
    rw [ht, targetExponent_eq]
    unfold lastPlace
    omega
  set k := (e - t).toNat with hk
  have hscale : (m : ℚ) * 2 ^ e / 2 ^ (e - k) = (m <<< k : Nat) := by
    rw [Nat.shiftLeft_eq, zpow_sub₀ two_ne_zero, zpow_natCast]
    push_cast
    field_simp
  show UnpackedFloat.roundWithAccuracy Format.binary64 _ (m <<< k) (e - k) .exact = _
  apply roundWithAccuracy_eq hx
  · rw [hscale]
    exact represents_exact
  · omega

/-- A number is finite, not negative, and stands for a given one. -/
structure IsExact (x : ℚ) (u : Float) : Prop where
  finite : u.isFinite = true
  sign : signBit u = false
  value : absolute u = x

/-- A number that is given by its magnitude. -/
theorem isExact_of_magnitude (hfinite : u.isFinite = true) (hsign : signBit u = false)
    (hmagnitude : magnitude u = d) : IsExact d.toRat u :=
  ⟨hfinite, hsign, congrArg Dyadic.toRat hmagnitude⟩

/-- A magnitude that is not too large is stored as it is. -/
theorem Dyadic.Stored.isExact (hd : d.Stored) (hle : d.exponent ≤ 971) :
    IsExact d.toRat (d.toFloat false) :=
  isExact_of_magnitude (isFinite_toFloat hd hle) (signBit_toFloat hd hle) (magnitude_toFloat hd hle)

theorem isExact_toFloat (hx : 0 < x) (hlt : x < 2 ^ (1023 : ℤ)) :
    IsExact (nearest x).toRat ((nearest x).toFloat false) :=
  (nearest_stored hx).isExact (exponent_nearest_le hx hlt)

/-- A magnitude too large to be stored is infinite. -/
theorem toFloat_of_huge (hpos : 0 < d.mantissa) (hhuge : 971 < d.exponent) :
    d.toFloat false = ⟨Float.Model.pack (.infinity .positive)⟩ := by
  have hbiased : 2 ^ 11 ≤ (d.exponent + (Format.exponentBias Format.binary64 : Int) +
      (Format.mantissaBitsWithoutImplicit Format.binary64 : Int)).toNat + 1 := by
    show 2 ^ 11 ≤ (d.exponent + 1023 + 52).toNat + 1
    omega
  have hpack : UnpackedFloat.pack Format.binary64
      (.finite (signOf false) d.mantissa d.exponent hpos) =
        UnpackedFloat.pack Format.binary64 (.infinity .positive) := if_pos hbiased
  rw [Dyadic.toFloat, unpacked_of_pos hpos]
  exact eq_of_toBits (congrArg BitVec.toNat hpack)

/-- Far below the largest number. -/
theorem lt_huge (hx : x < 2 ^ 128) : x < 2 ^ (1023 : ℤ) :=
  calc x < 2 ^ 128 := hx
    _ = 2 ^ (128 : ℤ) := (zpow_ofNat 2 128).symm
    _ ≤ 2 ^ (1023 : ℤ) := zpow_le_zpow_right₀ one_le_two (by norm_num)

namespace IsExact

variable {y : ℚ}

theorem mantissa_pos (h : IsExact x u) (hx : 0 < x) : 0 < (magnitude u).mantissa := by
  rw [mantissa_pos_iff]
  show 0 < absolute u
  rwa [h.value]

theorem mul (hu : IsExact x u) (hv : IsExact y v) (hx : 0 < x) (hy : 0 < y) :
    u * v = (nearest (x * y)).toFloat false := by
  rw [float_mul hu.finite hv.finite (hu.mantissa_pos hx) (hv.mantissa_pos hy), hu.value, hv.value,
    hu.sign, hv.sign]
  rfl

theorem div (hu : IsExact x u) (hv : IsExact y v) (hx : 0 < x) (hy : 0 < y) :
    u / v = (nearest (x / y)).toFloat false := by
  rw [float_div hu.finite hv.finite (hu.mantissa_pos hx) (hv.mantissa_pos hy), hu.value, hv.value,
    hu.sign, hv.sign]
  rfl

end IsExact

theorem toFloat_toUInt64 {m : Nat} (hm : 0 < m) (hlt : m < 2 ^ 64) :
    m.toUInt64.toFloat = (nearest (m : ℚ)).toFloat false := by
  have hround := @model_round_eq false _ 0 hm
  rw [zpow_zero, mul_one] at hround
  have hcast : m.toUInt64.toNat = m := Nat.mod_eq_of_lt hlt
  show (⟨Float.Model.pack (UnpackedFloat.normalize Format.binary64 (m.toUInt64.toNat : ℤ) 0
    .positive)⟩ : Float) = _
  rw [hcast]
  unfold UnpackedFloat.normalize
  have hcompare : compare (m : ℤ) 0 = .gt := by
    rw [Int.compare_eq_gt]
    exact_mod_cast hm
  rw [hcompare]
  show (⟨Float.Model.pack (UnpackedFloat.round Format.binary64 (signOf false) m 0)⟩ : Float) = _
  rw [hround]
  rfl

/-- A short whole number is converted without loss. -/
theorem isExact_toUInt64 {m : Nat} (hm : 0 < m) (hlt : m < 2 ^ 53) :
    IsExact m m.toUInt64.toFloat := by
  have hm' : (0 : ℚ) < m := by exact_mod_cast hm
  have hshort : (m : ℚ) < 2 ^ 128 := by exact_mod_cast hlt.trans (by norm_num)
  have hexact := isExact_toFloat hm' (lt_huge hshort)
  rwa [toRat_nearest_natCast hm hlt, ← toFloat_toUInt64 hm (hlt.trans (by decide))] at hexact

/-- The powers of ten that are tabulated are exact. -/
theorem isExact_powerOfTen (e : Fin 23) :
    IsExact (10 ^ e.val) (Float.exactlyRepresentablePowersOfTen[e]) := by
  have htable : ∀ e : Fin 23,
      let p := Float.exactlyRepresentablePowersOfTen[e]
      p.isFinite = true ∧ signBit p = false ∧
        (magnitude p).mantissa * 2 ^ (magnitude p).exponent.toNat =
          10 ^ e.val * 2 ^ (-(magnitude p).exponent).toNat := by
    decide
  obtain ⟨hfinite, hsign, hvalue⟩ := htable e
  refine ⟨hfinite, hsign, ?_⟩
  generalize Float.exactlyRepresentablePowersOfTen[e] = p at hvalue ⊢
  have hvalue' : ((magnitude p).mantissa : ℚ) * 2 ^ (magnitude p).exponent.toNat =
      10 ^ e.val * 2 ^ (-(magnitude p).exponent).toNat := by exact_mod_cast hvalue
  have hunit : (0 : ℚ) < 2 ^ (-(magnitude p).exponent).toNat := by positivity
  apply mul_right_cancel₀ hunit.ne'
  rw [← hvalue', absolute, Dyadic.toRat, mul_assoc, ← zpow_natCast, ← zpow_natCast,
    ← zpow_add₀ two_ne_zero]
  congr 2
  omega

/-- A decimal is read from its digits and its power of ten as one number. -/
theorem model_ofScientific_eq {m e : Nat} {negative : Bool} (hm : 0 < m)
    (hguard : if negative then 0 < e ∧ e ≤ 2048 + m.log2 else e ≤ 2048) :
    UnpackedFloat.ofScientific Format.binary64 m (if negative then Int.negOfNat e else e) =
      (nearest (if negative then (m : ℚ) / 10 ^ e else m * 10 ^ e)).unpacked false := by
  have hpow : 0 < 10 ^ e := Nat.pow_pos (by decide)
  unfold UnpackedFloat.ofScientific
  rw [dif_neg hm.ne']
  cases negative
  · simp only [Bool.false_eq_true, if_false] at hguard ⊢
    have hlarge : ¬ (e : ℤ) > 2 ^ 11 := by omega
    have hsmall : ¬ (e : ℤ) < -((2 ^ 11 : ℤ) + m.log2) := by omega
    rw [if_neg hlarge, if_neg hsmall, if_pos (by omega)]
    have hshift : (m <<< 53 : ℕ) = m * 2 ^ 53 := Nat.shiftLeft_eq m 53
    have hfull : 2 ^ 52 ≤ m <<< 53 * 10 ^ e := by
      rw [hshift]
      calc 2 ^ 52 ≤ 1 * 2 ^ 53 * 1 := by norm_num
        _ ≤ m * 2 ^ 53 * 10 ^ e := by gcongr <;> omega
    have hmul := mul_finite (a := false) (b := false) (e := -53) (f := 0) (by omega) hpow
      (.inl hfull)
    have hvalue : ((m <<< 53 : ℕ) : ℚ) * 2 ^ (-53 : ℤ) * (((10 ^ e : ℕ) : ℚ) * 2 ^ (0 : ℤ)) =
        m * 10 ^ e := by
      rw [hshift, zpow_zero, mul_one]
      push_cast
      rw [mul_assoc (m : ℚ)]
      norm_num
    rw [hvalue] at hmul
    exact hmul
  · simp only [if_true] at hguard ⊢
    have hnegative : Int.negOfNat e = -(e : ℤ) := by cases e <;> rfl
    have hlarge : ¬ -(e : ℤ) > 2 ^ 11 := by omega
    have hsmall : ¬ -(e : ℤ) < -((2 ^ 11 : ℤ) + m.log2) := by omega
    have hnat : (- -(e : ℤ)).toNat = e := by omega
    rw [hnegative, if_neg hlarge, if_neg hsmall, if_neg (by omega)]
    have hdiv := div_finite (a := false) (b := false) (e := 0) (f := 0) hm hpow
    have hvalue : (m : ℚ) * 2 ^ (0 : ℤ) / (((10 ^ e : ℕ) : ℚ) * 2 ^ (0 : ℤ)) = m / 10 ^ e := by
      rw [zpow_zero, mul_one, mul_one]
      push_cast
      rfl
    rw [hvalue] at hdiv
    simp only [hnat]
    exact hdiv

theorem ofScientific_eq {m e : Nat} {negative : Bool} (hm : 0 < m)
    (hguard : if negative then 0 < e ∧ e ≤ 2048 + m.log2 else e ≤ 2048) :
    Float.ofScientific m negative e =
      (nearest (if negative then (m : ℚ) / 10 ^ e else m * 10 ^ e)).toFloat false := by
  have hm' : (0 : ℚ) < m := by exact_mod_cast hm
  unfold Float.ofScientific
  split
  · next h =>
    -- The digits and the power of ten are both exact.
    have hdigits := isExact_toUInt64 hm h.1
    have hpower := isExact_powerOfTen ⟨e, by omega⟩
    cases negative
    · exact hdigits.mul hpower hm' (by positivity)
    · exact hdigits.div hpower hm' (by positivity)
  · have hmodel := model_ofScientific_eq hm hguard
    cases negative <;> exact congrArg (fun u => (⟨Float.Model.pack u⟩ : Float)) hmodel


/-- A whole number is converted to the number nearest to it. -/
theorem ofNat_eq {n : Nat} (hn : 0 < n) : Float.ofNat n = (nearest (n : ℚ)).toFloat false := by
  have hdecimal := @ofScientific_eq n 0 false hn (by simp)
  rw [if_neg Bool.false_ne_true, pow_zero, mul_one] at hdecimal
  exact hdecimal

/-! ## §4 Order -/

section Order

variable {y : ℚ} {d' : Dyadic}

/-- Of two stored magnitudes the one with the larger exponent is larger. -/
theorem toRat_lt_of_exponent (hd : d.Stored) (hd' : d'.Stored) (h : d.exponent < d'.exponent) :
    d.toRat < d'.toRat := by
  have hlow : (d.mantissa : ℚ) < 2 ^ 53 := by exact_mod_cast hd.mantissa_lt
  have hhigh : (2 : ℚ) ^ 52 ≤ d'.mantissa := by
    obtain hfull | hmin := hd'.full
    · exact_mod_cast hfull
    · have := hd.le_exponent
      omega
  calc d.toRat < 2 ^ 53 * 2 ^ d.exponent := mul_lt_mul_of_pos_right hlow (by positivity)
    _ = 2 ^ 52 * 2 ^ (d.exponent + 1) := by
      rw [zpow_add_one₀ two_ne_zero]
      ring
    _ ≤ 2 ^ 52 * 2 ^ d'.exponent := by
      apply mul_le_mul_of_nonneg_left _ (by positivity)
      exact zpow_le_zpow_right₀ one_le_two h
    _ ≤ d'.toRat := mul_le_mul_of_nonneg_right hhigh (by positivity)

/-- Stored magnitudes compare as the numbers that they stand for. -/
theorem compare_stored (hd : d.Stored) (hd' : d'.Stored) :
    (compare d.exponent d'.exponent).then (compare d.mantissa d'.mantissa) =
      compare d.toRat d'.toRat := by
  obtain h | h | h := lt_trichotomy d.exponent d'.exponent
  · rw [compare_lt_iff_lt.2 h, compare_lt_iff_lt.2 (toRat_lt_of_exponent hd hd' h)]
    rfl
  · have hunit : (0 : ℚ) < 2 ^ d'.exponent := by positivity
    rw [compare_eq_iff_eq.2 h, Dyadic.toRat, Dyadic.toRat, h]
    show compare d.mantissa d'.mantissa = _
    obtain h | h | h := lt_trichotomy d.mantissa d'.mantissa
    · have hcast : (d.mantissa : ℚ) < d'.mantissa := by exact_mod_cast h
      rw [compare_lt_iff_lt.2 h, compare_lt_iff_lt.2 (mul_lt_mul_of_pos_right hcast hunit)]
    · rw [compare_eq_iff_eq.2 h, compare_eq_iff_eq.2 (by rw [h])]
    · have hcast : (d'.mantissa : ℚ) < d.mantissa := by exact_mod_cast h
      rw [compare_gt_iff_gt.2 h, compare_gt_iff_gt.2 (mul_lt_mul_of_pos_right hcast hunit)]
  · rw [compare_gt_iff_gt.2 h, compare_gt_iff_gt.2 (toRat_lt_of_exponent hd' hd h)]
    rfl

/-- Positive numbers compare as the rationals that they stand for. -/
theorem IsExact.compare_eq (hu : IsExact x u) (hv : IsExact y v) (hx : 0 < x) (hy : 0 < y) :
    u.toModel.unpack.compare v.toModel.unpack = some (compare x y) := by
  rw [unpack_of_isFinite hu.finite, unpack_of_isFinite hv.finite,
    unpacked_of_pos (hu.mantissa_pos hx), unpacked_of_pos (hv.mantissa_pos hy), hu.sign, hv.sign]
  have hcompare := compare_stored (magnitude_stored (x := u)) (magnitude_stored (x := v))
  rw [show (magnitude u).toRat = x from hu.value, show (magnitude v).toRat = y from hv.value]
    at hcompare
  exact congrArg some hcompare

/-- Exchanging the sides of a comparison swaps its outcome. -/
theorem compare_swap (a b : UnpackedFloat) : b.compare a = (a.compare b).map Ordering.swap := by
  have hmagnitudes (e e' : Int) (m m' : Nat) : (compare e' e).then (compare m' m) =
      ((compare e e').then (compare m m')).swap := by
    rw [Ordering.swap_then, ← Std.OrientedOrd.eq_swap, ← Std.OrientedOrd.eq_swap]
  cases a with
  | notANumber => cases b <;> rfl
  | infinity s => cases s <;> cases b with
    | infinity s' => cases s' <;> rfl
    | finite s' => cases s' <;> rfl
    | _ => rfl
  | zero s => cases b with
    | infinity s' => cases s' <;> rfl
    | finite s' => cases s' <;> rfl
    | _ => rfl
  | finite s m e =>
    cases s <;> cases b with
    | infinity s' => cases s' <;> rfl
    | notANumber => rfl
    | zero => rfl
    | finite s' m' e' =>
      -- Of two numbers of one sign the magnitudes are compared.
      cases s' <;> first
        | rfl
        | exact congrArg some (hmagnitudes e e' m m')
        | exact congrArg (fun o => some (Ordering.swap o)) (hmagnitudes e e' m m')

theorem float_lt_iff : u < v ↔ u.toModel.unpack.compare v.toModel.unpack = some .lt := by
  show decide ((u.toModel.unpack.compare v.toModel.unpack == some .lt) = true) = true ↔ _
  rw [decide_eq_true_iff]
  cases u.toModel.unpack.compare v.toModel.unpack with
  | none => decide
  | some o => cases o <;> decide

theorem float_le_iff :
    u ≤ v ↔ ∃ o, u.toModel.unpack.compare v.toModel.unpack = some o ∧ o.isLE := by
  show decide ((u.toModel.unpack.compare v.toModel.unpack).any (·.isLE) = true) = true ↔ _
  rw [decide_eq_true_iff, Option.any_eq_true]

theorem IsExact.lt_iff (hu : IsExact x u) (hv : IsExact y v) (hx : 0 < x) (hy : 0 < y) :
    u < v ↔ x < y := by
  rw [float_lt_iff, hu.compare_eq hv hx hy, Option.some_inj, compare_lt_iff_lt]

/-- There is one number for a rational. -/
theorem IsExact.unique (hu : IsExact x u) (hv : IsExact x v) : u = v := by
  have hcompare := compare_stored (magnitude_stored (x := u)) (magnitude_stored (x := v))
  rw [show (magnitude u).toRat = x from hu.value, show (magnitude v).toRat = x from hv.value,
    compare_eq_iff_eq.2 rfl, Ordering.then_eq_eq, compare_eq_iff_eq, compare_eq_iff_eq] at hcompare
  obtain ⟨hexponent, hmantissa⟩ := hcompare
  apply eq_of_magnitude (hu.sign.trans hv.sign.symm)
  rw [show magnitude u = ⟨(magnitude u).mantissa, (magnitude u).exponent⟩ from rfl, hexponent,
    hmantissa]

/-- A number is NaN, or positive and finite, or below all positive finite numbers, or above them. -/
theorem exact_or_outside (hnan : u.isNaN = false) :
    (0 < absolute u ∧ IsExact (absolute u) u) ∨
      (∀ y v, 0 < y → IsExact y v → u.toModel.unpack.compare v.toModel.unpack = some .lt) ∨
      ∀ y v, 0 < y → IsExact y v → u.toModel.unpack.compare v.toModel.unpack = some .gt := by
  have hunpack := unpack_eq u
  have hv {y : ℚ} {v : Float} (hy : 0 < y) (hv : IsExact y v) : v.toModel.unpack =
      .finite .positive (magnitude v).mantissa (magnitude v).exponent (hv.mantissa_pos hy) := by
    rw [unpack_of_isFinite hv.finite, unpacked_of_pos (hv.mantissa_pos hy), hv.sign]
    rfl
  by_cases hbiased : biasedExponent u = 2047
  · rw [if_pos hbiased] at hunpack
    split at hunpack
    · right
      rw [hunpack]
      cases signBit u
      · exact .inr fun y v hy hexact => by rw [hv hy hexact]; rfl
      · exact .inl fun y v hy hexact => by rw [hv hy hexact]; rfl
    · have hu : u.isNaN = true := by
        show u.toModel.unpack.isNaN = true
        rw [hunpack]
        rfl
      rw [hu] at hnan
      cases hnan
  · rw [if_neg hbiased] at hunpack
    by_cases hzero : (magnitude u).mantissa = 0
    · right; left
      rw [hunpack, Dyadic.unpacked, dif_pos hzero]
      intro y v hy hexact
      rw [hv hy hexact]
      rfl
    · have hpos : 0 < (magnitude u).mantissa := Nat.pos_of_ne_zero hzero
      cases hsign : signBit u with
      | false => exact .inl ⟨mantissa_pos_iff.1 hpos, isFinite_iff.2 hbiased, hsign, rfl⟩
      | true =>
        right; left
        rw [hunpack, unpacked_of_pos hpos, hsign]
        intro y v hy hexact
        rw [hv hy hexact]
        rfl

/-- A number that passes both checks of a range is in the range, unless it is NaN. -/
theorem exact_of_range {a b : ℚ} {low high : Float} (hlow : IsExact a low) (ha : 0 < a)
    (hhigh : IsExact b high) (hb : 0 < b) (hnan : u.isNaN = false) (hge : ¬ u < low)
    (hle : ¬ high < u) : IsExact (absolute u) u ∧ a ≤ absolute u ∧ absolute u ≤ b := by
  rw [float_lt_iff] at hge hle
  obtain ⟨hpos, hexact⟩ | hbelow | habove := exact_or_outside hnan
  · rw [hexact.compare_eq hlow hpos ha, Option.some_inj, compare_lt_iff_lt, not_lt] at hge
    rw [hhigh.compare_eq hexact hb hpos, Option.some_inj, compare_lt_iff_lt, not_lt] at hle
    exact ⟨hexact, hge, hle⟩
  · exact absurd (hbelow a low ha hlow) hge
  · rw [compare_swap, habove b high hb hhigh] at hle
    exact absurd rfl hle

/-- A finite number that is not below a positive one is positive. -/
theorem pos_of_not_lt {a : ℚ} {low : Float} (hlow : IsExact a low) (ha : 0 < a)
    (hfinite : u.isFinite = true) (h : ¬ u < low) : 0.0 < u := by
  have hunpack : low.toModel.unpack = .finite .positive (magnitude low).mantissa
      (magnitude low).exponent (hlow.mantissa_pos ha) := by
    rw [unpack_of_isFinite hlow.finite, unpacked_of_pos (hlow.mantissa_pos ha), hlow.sign]
    rfl
  have hzero : (0.0 : Float).toModel.unpack = .zero .positive := rfl
  rw [float_lt_iff, unpack_of_isFinite hfinite, hunpack] at h
  rw [float_lt_iff, unpack_of_isFinite hfinite, hzero]
  by_cases hmantissa : (magnitude u).mantissa = 0
  · rw [Dyadic.unpacked, dif_pos hmantissa] at h
    exact absurd rfl h
  · rw [unpacked_of_pos (Nat.pos_of_ne_zero hmantissa)] at h ⊢
    -- A number with a sign would be below.
    cases hsign : signBit u with
    | false => rfl
    | true =>
      rw [hsign] at h
      exact absurd rfl h

/-- A finite number above zero stands for what it is without a sign. -/
theorem exact_of_pos (hfinite : u.isFinite = true) (h : 0.0 < u) :
    0 < absolute u ∧ IsExact (absolute u) u := by
  have hzero : (0.0 : Float).toModel.unpack = .zero .positive := rfl
  rw [float_lt_iff, unpack_of_isFinite hfinite, hzero] at h
  by_cases hmantissa : (magnitude u).mantissa = 0
  · rw [Dyadic.unpacked, dif_pos hmantissa] at h
    cases h
  · rw [unpacked_of_pos (Nat.pos_of_ne_zero hmantissa)] at h
    cases hsign : signBit u with
    | false => exact ⟨mantissa_pos_iff.1 (Nat.pos_of_ne_zero hmantissa), hfinite, hsign, rfl⟩
    | true =>
      rw [hsign] at h
      cases h

theorem IsExact.pos (hu : IsExact x u) (hx : 0 < x) : 0.0 < u := by
  rw [float_lt_iff, unpack_of_isFinite hu.finite, unpacked_of_pos (hu.mantissa_pos hx), hu.sign]
  rfl

/-- A number that is at most another one is not NaN and not above it. -/
theorem not_lt_of_le (h : u ≤ v) : u.isNaN = false ∧ ¬ v < u := by
  obtain ⟨o, hcompare, hle⟩ := float_le_iff.1 h
  constructor
  · rw [Bool.eq_false_iff]
    intro hnan
    rw [unpack_of_isNaN hnan] at hcompare
    cases hcompare
  · rw [float_lt_iff, compare_swap, hcompare]
    intro hswap
    cases o <;> cases hle <;> cases hswap

/-- A finite number that is at least a positive one stands for at least as much. -/
theorem exact_of_le (hu : IsExact x u) (hx : 0 < x) (hfinite : v.isFinite = true) (h : u ≤ v) :
    IsExact (absolute v) v ∧ x ≤ absolute v := by
  have hnot := (not_lt_of_le h).2
  obtain ⟨hpos, hv⟩ := exact_of_pos hfinite (pos_of_not_lt hu hx hfinite hnot)
  rw [hv.lt_iff hu hpos hx, not_lt] at hnot
  exact ⟨hv, hnot⟩

end Order

/-! ## §5 Counts -/

section Counts

variable {u : Float} {n : Nat}

/-- A magnitude is a whole number, or a fraction whose denominator is a power of two. -/
theorem Dyadic.toRat_of_nonneg (h : 0 ≤ d.exponent) :
    d.toRat = (d.mantissa * Nat.pow 2 d.exponent.toNat : Nat) := by
  have hexponent : (d.exponent.toNat : ℤ) = d.exponent := Int.toNat_of_nonneg h
  rw [Dyadic.toRat, Nat.pow_eq]
  nth_rewrite 1 [← hexponent]
  rw [zpow_natCast]
  push_cast
  rfl

theorem Dyadic.toRat_of_neg (h : ¬ 0 ≤ d.exponent) :
    d.toRat = d.mantissa / (Nat.pow 2 (-d.exponent).toNat : Nat) := by
  have hexponent : d.exponent = -((-d.exponent).toNat : ℤ) := by omega
  rw [Dyadic.toRat, Nat.pow_eq]
  nth_rewrite 1 [hexponent]
  rw [zpow_neg, zpow_natCast, ← div_eq_mul_inv]
  push_cast
  rfl

/-- A magnitude is rounded to the largest whole number that is at most a half above it. -/
theorem Dyadic.le_round_iff : n ≤ d.round ↔ (n : ℚ) - 1 / 2 ≤ d.toRat := by
  unfold Dyadic.round
  split
  · next hexponent =>
    rw [Dyadic.toRat_of_nonneg hexponent]
    constructor
    · intro h
      have h' : (n : ℚ) ≤ (d.mantissa * Nat.pow 2 d.exponent.toNat : Nat) := by exact_mod_cast h
      linarith
    · intro h
      have h' : (n : ℚ) < (d.mantissa * Nat.pow 2 d.exponent.toNat + 1 : Nat) := by
        rw [Nat.cast_succ]
        linarith
      exact Nat.le_of_lt_succ (by exact_mod_cast h')
  · next hexponent =>
    have hden : 0 < Nat.pow 2 (-d.exponent).toNat := Nat.two_pow_pos _
    rw [Dyadic.toRat_of_neg hexponent, le_div_iff₀ (by exact_mod_cast hden)]
    dsimp only
    rw [Nat.le_div_iff_mul_le (by omega)]
    generalize Nat.pow 2 (-d.exponent).toNat = den
    have hcast : n * (2 * den) ≤ 2 * d.mantissa + den ↔
        (n : ℚ) * (2 * den) ≤ 2 * d.mantissa + den := by exact_mod_cast Iff.rfl
    rw [hcast]
    constructor <;> intro h <;> linarith

theorem Dyadic.round_mono {d' : Dyadic} (h : d.toRat ≤ d'.toRat) : d.round ≤ d'.round :=
  Dyadic.le_round_iff.2 ((Dyadic.le_round_iff.1 le_rfl).trans h)

/-- Rounding to a whole number does not lead past one. -/
theorem Dyadic.round_le (h : d.toRat ≤ n) : d.round ≤ n := by
  by_contra hlt
  have hsucc : ((n + 1 : Nat) : ℚ) - 1 / 2 ≤ d.toRat :=
    Dyadic.le_round_iff.1 (Nat.lt_of_not_le hlt)
  rw [Nat.cast_succ] at hsucc
  linarith

theorem Dyadic.le_round (h : (n : ℚ) ≤ d.toRat) : n ≤ d.round :=
  Dyadic.le_round_iff.2 (by linarith)

theorem IsExact.toCount_eq (h : IsExact x u) : toCount u = clampCount (magnitude u).round := by
  unfold toCount
  rw [isNaN_of_isFinite h.finite, h.sign, h.finite]
  rfl

theorem IsExact.toCount_le (h : IsExact x u) (hx : x ≤ n) : toCount u ≤ n := by
  rw [h.toCount_eq]
  have hround : (magnitude u).round ≤ n := Dyadic.round_le (h.value.trans_le hx)
  exact Nat.le_trans (Nat.min_le_left _ _) hround

theorem IsExact.le_toCount (h : IsExact x u) (hx : n ≤ x) (hn : n ≤ countLimit) :
    n ≤ toCount u := by
  rw [h.toCount_eq]
  have hround : n ≤ (magnitude u).round := Dyadic.le_round (hx.trans_eq h.value.symm)
  exact Nat.le_min.2 ⟨hround, hn⟩

theorem toCount_le_countLimit : toCount u ≤ countLimit := by
  unfold toCount
  split
  · exact Nat.zero_le _
  · split
    · exact Nat.min_le_right _ _
    · exact Nat.le_refl _

theorem toCount_toFloat (hd : d.Stored) (hle : d.exponent ≤ 971) :
    toCount (d.toFloat false) = clampCount d.round := by
  rw [(hd.isExact hle).toCount_eq, magnitude_toFloat hd hle]

/-- A magnitude too large to be stored counts as the limit. -/
theorem toCount_toFloat_of_huge (hpos : 0 < d.mantissa) (hhuge : 971 < d.exponent) :
    toCount (d.toFloat false) = countLimit := by
  rw [toFloat_of_huge hpos hhuge]
  decide

/-- A larger number counts at least as much, also where it is too large to be stored. -/
theorem toCount_nearest_mono {y : ℚ} (hx : 0 < x) (hxy : x ≤ y) :
    toCount ((nearest x).toFloat false) ≤ toCount ((nearest y).toFloat false) := by
  have hmono := toRat_nearest_mono hx hxy
  have hstored := nearest_stored hx
  have hstored' := nearest_stored (hx.trans_le hxy)
  obtain hle | hhuge := le_or_gt (nearest y).exponent 971
  · have hle' : (nearest x).exponent ≤ 971 := by
      by_contra hhuge
      have hlt := toRat_lt_of_exponent hstored' hstored (by omega)
      exact absurd hmono (not_le.2 hlt)
    rw [toCount_toFloat hstored hle', toCount_toFloat hstored' hle]
    exact min_le_min_right _ (Dyadic.round_mono hmono)
  · have hpos : 0 < (nearest y).mantissa := by
      have := hstored'.full
      omega
    rw [toCount_toFloat_of_huge hpos hhuge]
    exact toCount_le_countLimit

end Counts

end PhysicsLab.Number
