import PhysicsLab.Proofs.Number.Exact
import PhysicsLab.Simulation.Instant

/-!
# Instants in seconds

An instant is a whole number of nanoseconds; in seconds it is that number divided and rounded twice.
A later instant never has fewer seconds.  It has more as long as doubles lie less than a nanosecond
apart, which they do up to 8388608 seconds.  Beyond, neighbouring instants share their seconds.

## Main definitions

* `Instant.roundedSeconds` — the rational that the seconds of a number of nanoseconds stand for

## Main statements

* `Instant.secondsOf_lt` — up to 8388608 seconds a later instant has more seconds
* `Instant.secondsOf_eq_of_not_lt` — a later instant that has no more seconds has the same
* `Instant.nanos_ofSeconds_le`, `Instant.nanos_ofSeconds_mono`
-/

namespace PhysicsLab.Instant

open PhysicsLab.Number

variable {m n : Nat} {x : ℚ} {u : Float}

/-! ## §1 From nanoseconds to seconds -/

theorem isExact_billion : IsExact (10 ^ 9) (1000000000.0 : Float) := by
  have hexact := isExact_of_magnitude (u := 1000000000.0) (d := ⟨8388608000000000, -23⟩)
    (by decide) (by decide) (by decide)
  rwa [show Number.Dyadic.toRat ⟨8388608000000000, -23⟩ = 10 ^ 9 by
    norm_num [Number.Dyadic.toRat]] at hexact

/-- The rational that the seconds of a number of nanoseconds stand for. -/
def roundedSeconds (n : Nat) : ℚ := (nearest ((nearest (n : ℚ)).toRat / 10 ^ 9)).toRat

/-- The quotient of a positive number of nanoseconds is far from both ends of the numbers. -/
theorem quotient_bounds (hn : 1 ≤ n) (hlimit : n ≤ countLimit) :
    (2 : ℚ) ^ (-1022 : ℤ) ≤ (nearest (n : ℚ)).toRat / 10 ^ 9 ∧
      (nearest (n : ℚ)).toRat / 10 ^ 9 < 2 ^ 128 := by
  obtain ⟨hone, hhigh⟩ := toRat_nearest_count hn
  have hsize : (n : ℚ) ≤ 2 ^ 64 := by
    have hword : n ≤ 2 ^ 64 := hlimit.trans (by decide)
    exact_mod_cast hword
  constructor
  · have hsmall : (2 : ℚ) ^ (-1022 : ℤ) ≤ 2 ^ (-30 : ℤ) :=
      zpow_le_zpow_right₀ one_le_two (by norm_num)
    calc (2 : ℚ) ^ (-1022 : ℤ) ≤ 2 ^ (-30 : ℤ) := hsmall
      _ ≤ 1 / 10 ^ 9 := by norm_num
      _ ≤ (nearest (n : ℚ)).toRat / 10 ^ 9 := by gcongr
  · calc (nearest (n : ℚ)).toRat / 10 ^ 9 ≤ (nearest (n : ℚ)).toRat :=
          div_le_self (by linarith) (by norm_num)
      _ ≤ n * (1 + 1 / 2 ^ 53) := hhigh
      _ ≤ 2 ^ 64 * (1 + 1 / 2 ^ 53) := by gcongr
      _ < 2 ^ 128 := by norm_num

theorem roundedSeconds_pos (hn : 1 ≤ n) (hlimit : n ≤ countLimit) : 0 < roundedSeconds n :=
  toRat_nearest_pos (quotient_bounds hn hlimit).1

theorem isExact_secondsOf (hn : 1 ≤ n) (hlimit : n ≤ countLimit) :
    IsExact (roundedSeconds n) (secondsOf n) := by
  have hn' : (0 : ℚ) < n := by exact_mod_cast hn
  obtain ⟨hlow, hhigh⟩ := quotient_bounds hn hlimit
  have hpos : 0 < (nearest (n : ℚ)).toRat := one_pos.trans_le (toRat_nearest_count hn).1
  have hsize : (n : ℚ) < 2 ^ 128 := by
    have hword : n < 2 ^ 128 := hlimit.trans_lt (by decide)
    exact_mod_cast hword
  have hcount : IsExact (nearest (n : ℚ)).toRat (Float.ofNat n) := by
    rw [ofNat_eq hn]
    exact isExact_toFloat hn' (lt_huge hsize)
  rw [secondsOf, hcount.div isExact_billion hpos (by positivity)]
  exact isExact_toFloat (lt_of_lt_of_le (by positivity) hlow) (lt_huge hhigh)

/-! ## §2 Later instants -/

theorem roundedSeconds_mono (hn : 1 ≤ n) (hnm : n ≤ m) : roundedSeconds n ≤ roundedSeconds m := by
  have hn' : (0 : ℚ) < n := by exact_mod_cast hn
  have hpos : 0 < (nearest (n : ℚ)).toRat := one_pos.trans_le (toRat_nearest_count hn).1
  have hcount : (nearest (n : ℚ)).toRat ≤ (nearest (m : ℚ)).toRat :=
    toRat_nearest_mono hn' (by exact_mod_cast hnm)
  exact toRat_nearest_mono (by positivity) (by gcongr)

/-- Below 8388608 the last place is worth less than a nanosecond. -/
theorem zpow_lastPlace_le_of_lt (hx : 0 < x) (hlt : x < 8388608) :
    (2 : ℚ) ^ lastPlace x ≤ 1 / 2 ^ 30 := by
  have hlog : Int.log 2 x < 23 :=
    (Int.lt_zpow_iff_log_lt one_lt_two hx).1 (hlt.trans_eq (by norm_num))
  have hplace : lastPlace x ≤ -30 := by
    unfold lastPlace
    omega
  calc (2 : ℚ) ^ lastPlace x ≤ 2 ^ (-30 : ℤ) := zpow_le_zpow_right₀ one_le_two hplace
    _ = 1 / 2 ^ 30 := by norm_num

/-- Rounding does not close the gap of a nanosecond. -/
theorem toRat_nearest_lt {y : ℚ} (hx : 0 < x) (hgap : x + 1 / 10 ^ 9 ≤ y) (hy : y ≤ 8388608) :
    (nearest x).toRat < (nearest y).toRat := by
  have hxy : x < y := lt_of_lt_of_le (by linarith) hgap
  have hup := toRat_nearest_le hx
  have hplace := zpow_lastPlace_le_of_lt hx (hxy.trans_le hy)
  obtain rfl | hlt := hy.eq_or_lt
  · -- The end itself is stored exactly.
    have hend : (nearest (8388608 : ℚ)).toRat = 8388608 := by
      exact_mod_cast toRat_nearest_natCast (n := 8388608) (by norm_num) (by norm_num)
    rw [hend]
    linarith
  · have hypos : 0 < y := hx.trans hxy
    have hdown := le_toRat_nearest hypos
    have hplace' := zpow_lastPlace_le_of_lt hypos hlt
    linarith

theorem roundedSeconds_lt (hn : 1 ≤ n) (hnm : n < m) (hm : m ≤ 8388608 * 10 ^ 9) :
    roundedSeconds n < roundedSeconds m := by
  have hn' : (0 : ℚ) < n := by exact_mod_cast hn
  -- The numbers of nanoseconds are stored exactly, so that rounding matters in the quotients only.
  rw [roundedSeconds, roundedSeconds, toRat_nearest_natCast hn (by omega),
    toRat_nearest_natCast (by omega) (by omega)]
  apply toRat_nearest_lt (by positivity)
  · have hstep : (n : ℚ) + 1 ≤ m := by exact_mod_cast hnm
    rw [← add_div]
    gcongr
  · have hm' : (m : ℚ) ≤ 8388608 * 10 ^ 9 := by exact_mod_cast hm
    rw [div_le_iff₀ (by positivity)]
    exact hm'

theorem secondsOf_zero : secondsOf 0 = 0.0 := by decide

theorem secondsOf_pos (hn : 1 ≤ n) (hlimit : n ≤ countLimit) : 0.0 < secondsOf n :=
  (isExact_secondsOf hn hlimit).pos (roundedSeconds_pos hn hlimit)

/-- Up to 8388608 seconds a later instant has more seconds. -/
theorem secondsOf_lt (hnm : n < m) (hm : m ≤ 8388608 * 10 ^ 9) : secondsOf n < secondsOf m := by
  have hlimit : m ≤ countLimit := hm.trans (by decide)
  obtain rfl | hn := Nat.eq_zero_or_pos n
  · rw [secondsOf_zero]
    exact secondsOf_pos hnm hlimit
  · have hlimit' : n ≤ countLimit := hnm.le.trans hlimit
    have hm' : 1 ≤ m := Nat.le_of_lt (Nat.lt_of_le_of_lt hn hnm)
    rw [(isExact_secondsOf hn hlimit').lt_iff (isExact_secondsOf hm' hlimit)
      (roundedSeconds_pos hn hlimit') (roundedSeconds_pos hm' hlimit)]
    exact roundedSeconds_lt hn hnm hm

/-- Right after that, two instants share their seconds. -/
example : secondsOf (8388608 * 10 ^ 9 + 1) = secondsOf (8388608 * 10 ^ 9 + 2) := by decide +kernel

/-- A later instant that has no more seconds has the same. -/
theorem secondsOf_eq_of_not_lt (hnm : n < m) (hlimit : m ≤ countLimit)
    (hnot : ¬ secondsOf n < secondsOf m) : secondsOf n = secondsOf m := by
  obtain rfl | hn := Nat.eq_zero_or_pos n
  · rw [secondsOf_zero] at hnot
    exact absurd (secondsOf_pos hnm hlimit) hnot
  · have hlimit' : n ≤ countLimit := hnm.le.trans hlimit
    have hm' : 1 ≤ m := Nat.le_of_lt (Nat.lt_of_le_of_lt hn hnm)
    have hexact := isExact_secondsOf hn hlimit'
    have hexact' := isExact_secondsOf hm' hlimit
    rw [hexact.lt_iff hexact' (roundedSeconds_pos hn hlimit') (roundedSeconds_pos hm' hlimit)]
      at hnot
    have hsame : roundedSeconds n = roundedSeconds m :=
      (roundedSeconds_mono hn hnm.le).antisymm (not_lt.1 hnot)
    rw [← hsame] at hexact'
    exact hexact.unique hexact'

/-! ## §3 From seconds to nanoseconds -/

/-- The product that a number of seconds is converted by. -/
theorem nanos_ofSeconds_eq (hu : IsExact x u) (hx : 0 < x) :
    (ofSeconds u).nanos = toCount ((nearest (x * 10 ^ 9)).toFloat false) := by
  have hguard : (u.isFinite && decide (u > 0.0)) = true := by
    rw [hu.finite, decide_eq_true (hu.pos hx)]
    rfl
  rw [ofSeconds, if_pos hguard, ← hu.mul isExact_billion hx (by positivity)]

/-- Conversion to nanoseconds does not lead past a whole number of them. -/
theorem nanos_ofSeconds_le (hu : IsExact x u) (hx : 0 < x) (hhigh : x * 10 ^ 9 ≤ n)
    (hn : n < 2 ^ 53) : (ofSeconds u).nanos ≤ n := by
  have hpos : 0 < x * 10 ^ 9 := by positivity
  have hn' : 0 < n := by
    have hcast : (0 : ℚ) < n := hpos.trans_le hhigh
    exact_mod_cast hcast
  have hsize : (n : ℚ) < 2 ^ 128 := by exact_mod_cast hn.trans (by norm_num)
  rw [nanos_ofSeconds_eq hu hx]
  apply (isExact_toFloat hpos (lt_huge (hhigh.trans_lt hsize))).toCount_le
  have hmono := toRat_nearest_mono hpos hhigh
  rwa [toRat_nearest_natCast hn' hn] at hmono

/-- More seconds are not fewer nanoseconds. -/
theorem nanos_ofSeconds_mono {y : ℚ} {v : Float} (hu : IsExact x u) (hv : IsExact y v) (hx : 0 < x)
    (hxy : x ≤ y) : (ofSeconds u).nanos ≤ (ofSeconds v).nanos := by
  rw [nanos_ofSeconds_eq hu hx, nanos_ofSeconds_eq hv (hx.trans_le hxy)]
  exact toCount_nearest_mono (by positivity) (by gcongr)

end PhysicsLab.Instant
