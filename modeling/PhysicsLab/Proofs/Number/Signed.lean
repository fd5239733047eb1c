import PhysicsLab.Proofs.Number.Exact

/-!
# Sums and differences

A finite number stands for a rational with a sign, and finite numbers compare as the rationals do.
A sum or difference that is positive in the rationals is the number nearest to it.  Since all finite
numbers are multiples of the smallest positive one, so is their difference: it is never rounded to
zero, and the difference of two numbers is positive exactly where the first one is greater.

## Main definitions

* `rational` — the rational that a finite number stands for

## Main statements

* `lt_iff_rational` — finite numbers compare as their rationals
* `float_add`, `float_sub` — sums and differences
* `sub_pos_of_lt`
-/

namespace PhysicsLab.Number

open Float.Model (Format UnpackedFloat)
open Float.Model.UnpackedFloat (Sign)

variable {x : ℚ} {d d' : Dyadic} {s s' : Bool} {u v : Float}

/-! ## §1 Signed magnitudes -/

/-- The rational that a magnitude with a sign stands for. -/
def Dyadic.signed (negative : Bool) (d : Dyadic) : ℚ := if negative then -d.toRat else d.toRat

/-- The rational that a finite number stands for. -/
def rational (u : Float) : ℚ := (magnitude u).signed (signBit u)

theorem IsExact.rational_eq (h : IsExact x u) : rational u = x := by
  rw [rational, h.sign]
  exact h.value

theorem Dyadic.toRat_eq_zero (h : d.mantissa = 0) : d.toRat = 0 := by
  rw [toRat, h, Nat.cast_zero, zero_mul]

theorem Dyadic.signed_eq_zero (h : d.mantissa = 0) : d.signed s = 0 := by
  cases s <;> simp [signed, toRat_eq_zero h]

/-- Magnitudes with signs compare as the rationals that they stand for. -/
theorem compare_unpacked (hd : d.Stored) (hd' : d'.Stored) :
    (d.unpacked s).compare (d'.unpacked s') = some (compare (d.signed s) (d'.signed s')) := by
  by_cases hm : d.mantissa = 0 <;> by_cases hm' : d'.mantissa = 0
  · rw [Dyadic.signed_eq_zero hm, Dyadic.signed_eq_zero hm', Dyadic.unpacked, dif_pos hm,
      Dyadic.unpacked, dif_pos hm']
    rfl
  · have hpos' : 0 < d'.toRat := mantissa_pos_iff.1 (Nat.pos_of_ne_zero hm')
    rw [Dyadic.signed_eq_zero hm, Dyadic.unpacked, dif_pos hm,
      unpacked_of_pos (Nat.pos_of_ne_zero hm')]
    cases s'
    · exact congrArg some (compare_lt_iff_lt.2 hpos').symm
    · exact congrArg some (compare_gt_iff_gt.2 (neg_lt_zero.2 hpos')).symm
  · have hpos : 0 < d.toRat := mantissa_pos_iff.1 (Nat.pos_of_ne_zero hm)
    rw [Dyadic.signed_eq_zero hm', unpacked_of_pos (Nat.pos_of_ne_zero hm), Dyadic.unpacked,
      dif_pos hm']
    cases s
    · exact congrArg some (compare_gt_iff_gt.2 hpos).symm
    · exact congrArg some (compare_lt_iff_lt.2 (neg_lt_zero.2 hpos)).symm
  · have hpos : 0 < d.toRat := mantissa_pos_iff.1 (Nat.pos_of_ne_zero hm)
    have hpos' : 0 < d'.toRat := mantissa_pos_iff.1 (Nat.pos_of_ne_zero hm')
    have hstored := compare_stored hd hd'
    rw [unpacked_of_pos (Nat.pos_of_ne_zero hm), unpacked_of_pos (Nat.pos_of_ne_zero hm')]
    cases s <;> cases s'
    · exact congrArg some hstored
    · exact congrArg some (compare_gt_iff_gt.2 ((neg_lt_zero.2 hpos').trans hpos)).symm
    · exact congrArg some (compare_lt_iff_lt.2 ((neg_lt_zero.2 hpos).trans hpos')).symm
    · -- Of two negative numbers the one with the smaller magnitude is greater.
      have hswap : (compare d.toRat d'.toRat).swap = compare (-d.toRat) (-d'.toRat) := by
        obtain h | h | h := lt_trichotomy d.toRat d'.toRat
        · rw [compare_lt_iff_lt.2 h, compare_gt_iff_gt.2 (neg_lt_neg h)]
          rfl
        · rw [h, compare_eq_iff_eq.2 rfl, compare_eq_iff_eq.2 rfl]
          rfl
        · rw [compare_gt_iff_gt.2 h, compare_lt_iff_lt.2 (neg_lt_neg h)]
          rfl
      rw [← hstored] at hswap
      exact congrArg some hswap

/-- Finite numbers compare as the rationals that they stand for. -/
theorem lt_iff_rational (hu : u.isFinite = true) (hv : v.isFinite = true) :
    u < v ↔ rational u < rational v := by
  rw [float_lt_iff, unpack_of_isFinite hu, unpack_of_isFinite hv,
    compare_unpacked magnitude_stored magnitude_stored, Option.some_inj, compare_lt_iff_lt]
  rfl

theorem le_iff_rational (hu : u.isFinite = true) (hv : v.isFinite = true) :
    u ≤ v ↔ rational u ≤ rational v := by
  rw [float_le_iff, unpack_of_isFinite hu, unpack_of_isFinite hv,
    compare_unpacked magnitude_stored magnitude_stored]
  simp only [Option.some_inj, exists_eq_left', ← compare_le_iff_le, Ordering.isLE_iff_ne_gt]
  rfl

/-- Any two numbers compare. -/
theorem exists_compare {a b : UnpackedFloat} (ha : a.isNaN = false) (hb : b.isNaN = false) :
    ∃ o, a.compare b = some o := by
  cases a with
  | notANumber => cases ha
  | infinity s => cases b with
    | notANumber => cases hb
    | infinity | zero | finite => cases s <;> exact ⟨_, rfl⟩
  | zero s => cases b with
    | notANumber => cases hb
    | infinity s' | finite s' => cases s' <;> exact ⟨_, rfl⟩
    | zero => exact ⟨_, rfl⟩
  | finite s => cases b with
    | notANumber => cases hb
    | infinity s' | finite s' => cases s <;> cases s' <;> exact ⟨_, rfl⟩
    | zero => cases s <;> exact ⟨_, rfl⟩

/-- One number is above another exactly if it is not at most that one.  With NaN neither holds. -/
theorem lt_iff_not_le (hu : u.isNaN = false) (hv : v.isNaN = false) : v < u ↔ ¬ u ≤ v := by
  obtain ⟨o, hcompare⟩ := exists_compare (a := u.toModel.unpack) (b := v.toModel.unpack) hu hv
  rw [float_lt_iff, float_le_iff, compare_swap, hcompare]
  cases o <;> simp

/-- Nothing is at most NaN. -/
theorem not_le_of_isNaN (h : v.isNaN = true) : ¬ u ≤ v := by
  rw [float_le_iff, unpack_of_isNaN h]
  rintro ⟨o, hcompare, -⟩
  cases hunpack : u.toModel.unpack <;> rw [hunpack] at hcompare <;> cases hcompare

/-! ## §2 Sums -/

/-- What is stored is the magnitude nearest to itself. -/
theorem nearest_toRat (hd : d.Stored) (hpos : 0 < d.mantissa) : nearest d.toRat = d := by
  have hunit : (0 : ℚ) < 2 ^ d.exponent := by positivity
  refine nearest_eq hd (mantissa_pos_iff.1 hpos) ?_ ?_
  · rw [Dyadic.toRat, mul_div_cancel_right₀ _ hunit.ne']
    exact near_natCast
  · obtain hfull | hmin := hd.full
    · left
      rw [Dyadic.toRat, zpow_add₀ two_ne_zero, mul_comm]
      exact mul_le_mul_of_nonneg_right (by exact_mod_cast hfull) hunit.le
    · exact .inr hmin

/-- A magnitude as a whole number at a smaller exponent. -/
theorem Dyadic.signed_eq_mul {t : ℤ} (h : t ≤ d.exponent) :
    d.signed s =
      ((signOf s).apply (d.mantissa <<< (d.exponent - t).toNat : Nat) : ℤ) * 2 ^ t := by
  have hvalue : d.toRat = (d.mantissa <<< (d.exponent - t).toNat : Nat) * 2 ^ t := by
    have hexponent : ((d.exponent - t).toNat : ℤ) + t = d.exponent := by omega
    rw [Nat.shiftLeft_eq, Nat.cast_mul, Nat.cast_pow, mul_assoc, Nat.cast_ofNat, ← zpow_natCast,
      ← zpow_add₀ two_ne_zero, hexponent]
    rfl
  cases s
  · exact hvalue.trans (by rw [← Int.cast_natCast]; rfl)
  · show -d.toRat = _
    rw [hvalue, ← neg_mul, ← Int.cast_natCast, ← Int.cast_neg]
    rfl

/-- A positive whole number at some exponent is rounded to the nearest magnitude. -/
theorem normalize_eq {k t : ℤ} {zeroSign : Sign} (hk : 0 < k) :
    UnpackedFloat.normalize Format.binary64 k t zeroSign =
      (nearest (k * 2 ^ t)).unpacked false := by
  have hcompare : compare k 0 = .gt := Int.compare_eq_gt.2 hk
  have hcast : ((k.toNat : Nat) : ℚ) = k := by
    rw [← Int.cast_natCast, Int.toNat_of_nonneg hk.le]
  have hround := @model_round_eq false k.toNat t (by omega)
  rw [hcast] at hround
  unfold UnpackedFloat.normalize
  rw [hcompare]
  exact hround

/-- A positive sum of magnitudes with signs is rounded to the nearest magnitude. -/
theorem add_unpacked (hd : d.Stored) (hd' : d'.Stored) (h : 0 < d.signed s + d'.signed s') :
    UnpackedFloat.add Format.binary64 (d.unpacked s) (d'.unpacked s') =
      (nearest (d.signed s + d'.signed s')).unpacked false := by
  -- A positive number has no sign, and is the magnitude nearest to itself.
  have hself {d : Dyadic} {s : Bool} (hd : d.Stored) (h : 0 < d.signed s) :
      d.unpacked s = (nearest (d.signed s)).unpacked false := by
    cases s
    · exact congrArg (Dyadic.unpacked false) (nearest_toRat hd (mantissa_pos_iff.2 h)).symm
    · have hpos : 0 < -d.toRat := h
      have hnonneg : 0 ≤ d.toRat := by
        rw [Dyadic.toRat]
        positivity
      linarith
  by_cases hm : d.mantissa = 0
  · rw [Dyadic.signed_eq_zero hm, zero_add] at h ⊢
    have hm' : d'.mantissa ≠ 0 := fun hm' => h.ne' (Dyadic.signed_eq_zero hm')
    rw [← hself hd' h, Dyadic.unpacked, dif_pos hm, unpacked_of_pos (Nat.pos_of_ne_zero hm')]
    rfl
  · by_cases hm' : d'.mantissa = 0
    · rw [Dyadic.signed_eq_zero hm', add_zero] at h ⊢
      rw [← hself hd h, unpacked_of_pos (Nat.pos_of_ne_zero hm), Dyadic.unpacked, dif_pos hm']
      rfl
    · have hunit : (0 : ℚ) < 2 ^ min d.exponent d'.exponent := by positivity
      rw [Dyadic.signed_eq_mul (min_le_left d.exponent d'.exponent),
        Dyadic.signed_eq_mul (min_le_right d.exponent d'.exponent), ← add_mul, ← Int.cast_add]
        at h ⊢
      rw [unpacked_of_pos (Nat.pos_of_ne_zero hm), unpacked_of_pos (Nat.pos_of_ne_zero hm')]
      exact normalize_eq (by exact_mod_cast pos_of_mul_pos_left h hunit.le)

/-- A positive sum is the number nearest to it. -/
theorem float_add (hu : u.isFinite = true) (hv : v.isFinite = true)
    (h : 0 < rational u + rational v) :
    u + v = (nearest (rational u + rational v)).toFloat false := by
  show (⟨Float.Model.pack (UnpackedFloat.add Format.binary64 u.toModel.unpack v.toModel.unpack)⟩ :
    Float) = _
  rw [unpack_of_isFinite hu, unpack_of_isFinite hv,
    add_unpacked magnitude_stored magnitude_stored h]
  rfl

/-! ## §3 Differences -/

theorem model_sub_eq (a b : UnpackedFloat) :
    UnpackedFloat.sub Format.binary64 a b = UnpackedFloat.add Format.binary64 a b.neg := by
  have happly (s : Sign) (n : ℤ) : (-s).apply n = -s.apply n := by
    cases s
    · exact (neg_neg n).symm
    · rfl
  cases a with
  | finite sa ma ea ha =>
    cases b with
    | finite sb mb eb hb =>
      simp only [UnpackedFloat.sub, UnpackedFloat.add, UnpackedFloat.neg, happly,
        Int.sub_eq_add_neg]
    | _ => rfl
  | _ => cases b <;> rfl

theorem neg_unpacked : (d.unpacked s).neg = d.unpacked !s := by
  have hsign : -signOf s = signOf !s := by cases s <;> rfl
  unfold Dyadic.unpacked
  split
  · exact congrArg UnpackedFloat.zero hsign
  · rw [← hsign]
    rfl

/-- A positive difference is the number nearest to it. -/
theorem float_sub (hu : u.isFinite = true) (hv : v.isFinite = true)
    (h : 0 < rational u - rational v) :
    u - v = (nearest (rational u - rational v)).toFloat false := by
  have hneg : (magnitude v).signed (!signBit v) = -rational v := by
    unfold rational
    cases signBit v
    · rfl
    · exact (neg_neg _).symm
  rw [sub_eq_add_neg, ← hneg] at h ⊢
  show (⟨Float.Model.pack (UnpackedFloat.sub Format.binary64 u.toModel.unpack v.toModel.unpack)⟩ :
    Float) = _
  rw [unpack_of_isFinite hu, unpack_of_isFinite hv, model_sub_eq, neg_unpacked,
    add_unpacked magnitude_stored magnitude_stored h]
  rfl

/-- Every magnitude is a multiple of the smallest one. -/
theorem Dyadic.Stored.exists_signed_eq (hd : d.Stored) :
    ∃ n : ℤ, d.signed s = n * 2 ^ (-1074 : ℤ) := ⟨_, Dyadic.signed_eq_mul hd.le_exponent⟩

/-- A difference that is positive is at least the smallest positive number. -/
theorem le_rational_sub (h : 0 < rational u - rational v) :
    (2 : ℚ) ^ (-1074 : ℤ) ≤ rational u - rational v := by
  have hunit : (0 : ℚ) < 2 ^ (-1074 : ℤ) := by positivity
  obtain ⟨m, hm⟩ := (magnitude_stored (x := u)).exists_signed_eq (s := signBit u)
  obtain ⟨n, hn⟩ := (magnitude_stored (x := v)).exists_signed_eq (s := signBit v)
  have hsub : rational u - rational v = (m - n : ℤ) * 2 ^ (-1074 : ℤ) := by
    rw [rational, rational, hm, hn, ← sub_mul, Int.cast_sub]
  rw [hsub] at h ⊢
  have hstep : (1 : ℤ) ≤ m - n := by
    have hpos := pos_of_mul_pos_left h hunit.le
    exact_mod_cast hpos
  have hstep' : (1 : ℚ) ≤ (m - n : ℤ) := by exact_mod_cast hstep
  exact le_mul_of_one_le_left hunit.le hstep'

theorem toRat_nearest_pos_of_le (hx : (2 : ℚ) ^ (-1074 : ℤ) ≤ x) : 0 < (nearest x).toRat := by
  have hunit : (0 : ℚ) < 2 ^ (-1074 : ℤ) := by positivity
  have hsmallest : (nearest (2 ^ (-1074 : ℤ))).toRat = 2 ^ (-1074 : ℤ) := by
    have hstored : (⟨1, -1074⟩ : Dyadic).Stored := ⟨by norm_num, le_rfl, .inr rfl⟩
    have hvalue : (⟨1, -1074⟩ : Dyadic).toRat = 2 ^ (-1074 : ℤ) := by
      rw [Dyadic.toRat, Nat.cast_one, one_mul]
    rw [← hvalue, nearest_toRat hstored Nat.one_pos]
  exact hunit.trans_le (hsmallest.symm.le.trans (toRat_nearest_mono hunit hx))

theorem unpack_toFloat_of_huge (hd : d.Stored) (hhuge : 971 < d.exponent) :
    (d.toFloat false).toModel.unpack = .infinity .positive := by
  have hpos : 0 < d.mantissa := by
    have := hd.full
    omega
  rw [toFloat_of_huge hpos hhuge]
  rfl

/-- A positive magnitude is above zero, also where it is too large to be stored. -/
theorem toFloat_pos (hd : d.Stored) (hpos : 0 < d.mantissa) : 0.0 < d.toFloat false := by
  obtain hle | hhuge := le_or_gt d.exponent 971
  · exact (hd.isExact hle).pos (mantissa_pos_iff.1 hpos)
  · rw [toFloat_of_huge hpos hhuge]
    decide

/-- The difference of a number and a smaller one is positive. -/
theorem sub_pos_of_lt (hu : u.isFinite = true) (hv : v.isFinite = true) (h : u < v) :
    0.0 < v - u := by
  have hpos : 0 < rational v - rational u := sub_pos.2 ((lt_iff_rational hu hv).1 h)
  have hleast := le_rational_sub hpos
  rw [float_sub hv hu hpos]
  exact toFloat_pos (nearest_stored hpos) (mantissa_pos_iff.2 (toRat_nearest_pos_of_le hleast))

end PhysicsLab.Number
