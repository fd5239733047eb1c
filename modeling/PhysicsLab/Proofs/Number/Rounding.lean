import Mathlib.Algebra.Order.Field.Power
import Mathlib.Algebra.Order.Floor.Semiring
import Mathlib.Data.Int.Log
import Mathlib.Data.Rat.Floor
import Mathlib.Tactic.FieldSimp
import Mathlib.Tactic.Linarith
import Mathlib.Tactic.Positivity
import PhysicsLab.Proofs.Number.Bits

/-!
# Rounding

A positive rational is rounded to the magnitude nearest to it: the exponent of its last binary place
is known from its size, and its mantissa is the nearest whole number of units in that place, a tie
going to the even one.  The logical model of the operations shifts bits out instead and keeps two of
them; it comes to the same.

## Main definitions

* `nearest` — the magnitude nearest to a positive rational
* `Represents` — what a mantissa with two more bits says about a number

## Main statements

* `nearest_eq`, `nearest_eq_of_narrow` — which numbers are rounded to a magnitude
* `toRat_nearest_mono`, `toRat_nearest_le` — rounding is monotone and off by half a place at most
* `roundWithAccuracy_eq` — the operations round to the nearest magnitude
-/

namespace PhysicsLab.Number

open Float.Model (Format UnpackedFloat)
open Float.Model.UnpackedFloat (Sign ExtendedMantissa Accuracy)

/-! ## §1 Whole numbers nearby -/

section RoundEven

variable {x y : ℚ} {n : Nat}

/-- The whole number nearest to a number that is not negative; a tie goes to the even one. -/
def roundEven (x : ℚ) : Nat :=
  if x - ⌊x⌋₊ < 1 / 2 then ⌊x⌋₊
  else if 1 / 2 < x - ⌊x⌋₊ then ⌊x⌋₊ + 1
  else ⌊x⌋₊ + ⌊x⌋₊ % 2

/-- A whole number is near: not further than one half, and that far only if it is even. -/
def Near (x : ℚ) (n : Nat) : Prop :=
  (n : ℚ) - 1 / 2 ≤ x ∧ x ≤ n + 1 / 2 ∧ (x = n - 1 / 2 ∨ x = n + 1 / 2 → n % 2 = 0)

theorem near_of_lt (hlow : (n : ℚ) - 1 / 2 < x) (hhigh : x < n + 1 / 2) : Near x n :=
  ⟨hlow.le, hhigh.le, by rintro (h | h) <;> linarith⟩

theorem near_of_even (hlow : (n : ℚ) - 1 / 2 ≤ x) (hhigh : x ≤ n + 1 / 2) (heven : n % 2 = 0) :
    Near x n :=
  ⟨hlow, hhigh, fun _ => heven⟩

theorem near_natCast : Near (n : ℚ) n := near_of_lt (by linarith) (by linarith)

/-- In the middle of two whole numbers the even one of them is near. -/
theorem near_middle {m : Nat} (hx : x = m + 1 / 2) : Near x (m + m % 2) := by
  obtain h | h := Nat.mod_two_eq_zero_or_one m
  · rw [h]
    apply near_of_even _ _ (by omega) <;> push_cast <;> linarith
  · rw [h]
    apply near_of_even _ _ (by omega) <;> push_cast <;> linarith

theorem near_roundEven (hx : 0 ≤ x) : Near x (roundEven x) := by
  have hlow : (⌊x⌋₊ : ℚ) ≤ x := Nat.floor_le hx
  have hhigh : x < ⌊x⌋₊ + 1 := Nat.lt_floor_add_one x
  unfold roundEven
  split
  · exact near_of_lt (by linarith) (by linarith)
  · split
    · apply near_of_lt <;> push_cast <;> linarith
    · exact near_middle (by linarith)

theorem Near.le_of_le {m : Nat} (hx : Near x m) (hy : Near y n) (hxy : x ≤ y) : m ≤ n := by
  by_contra hlt
  have hstep : (n : ℚ) + 1 ≤ m := by exact_mod_cast Nat.lt_of_not_le hlt
  obtain ⟨hx1, -, hx2⟩ := hx
  obtain ⟨-, hy1, hy2⟩ := hy
  -- Both lie in the middle of `n` and `n + 1`, of which one is odd.
  have hn := hy2 (.inr (by linarith))
  have hm := hx2 (.inl (by linarith))
  have hnext : m = n + 1 := by
    have : (m : ℚ) ≤ n + 1 := by linarith
    have : m ≤ n + 1 := by exact_mod_cast this
    omega
  omega

theorem roundEven_eq_iff (hx : 0 ≤ x) : roundEven x = n ↔ Near x n := by
  constructor
  · rintro rfl
    exact near_roundEven hx
  · intro h
    exact Nat.le_antisymm ((near_roundEven hx).le_of_le h le_rfl)
      (h.le_of_le (near_roundEven hx) le_rfl)

theorem roundEven_mono (hx : 0 ≤ x) (hxy : x ≤ y) : roundEven x ≤ roundEven y :=
  (near_roundEven hx).le_of_le (near_roundEven (hx.trans hxy)) hxy

theorem roundEven_natCast : roundEven (n : ℚ) = n := (roundEven_eq_iff n.cast_nonneg).2 near_natCast

end RoundEven

/-! ## §2 Bits that are shifted out -/

/-- A mantissa with the two bits behind it stands for a number. -/
def Represents (em : ExtendedMantissa) (x : ℚ) : Prop :=
  match em.roundBit, em.stickyBit with
  | false, false => x = em.mantissa
  | false, true => (em.mantissa : ℚ) < x ∧ x < em.mantissa + 1 / 2
  | true, false => x = em.mantissa + 1 / 2
  | true, true => (em.mantissa : ℚ) + 1 / 2 < x ∧ x < em.mantissa + 1

variable {em : ExtendedMantissa} {x : ℚ}

theorem represents_exact {m : Nat} : Represents (.ofMantissaAndAccuracy m .exact) m := rfl

theorem Represents.floor (h : Represents em x) : (em.mantissa : ℚ) ≤ x ∧ x < em.mantissa + 1 := by
  obtain ⟨m, round, sticky⟩ := em
  cases round <;> cases sticky <;> simp only [Represents] at h
  · exact ⟨by linarith, by linarith⟩
  · exact ⟨by linarith, by linarith⟩
  · exact ⟨by linarith, by linarith⟩
  · exact ⟨by linarith, by linarith⟩

theorem Represents.near (h : Represents em x) : Near x em.roundedMantissa := by
  obtain ⟨m, round, sticky⟩ := em
  cases round <;> cases sticky <;> simp only [Represents] at h
  · show Near x m
    exact near_of_lt (by linarith) (by linarith)
  · show Near x m
    exact near_of_lt (by linarith) (by linarith)
  · show Near x (m + m % 2)
    exact near_middle h
  · show Near x (m + 1)
    apply near_of_lt <;> push_cast <;> linarith

theorem Represents.shiftRightOne (h : Represents em x) : Represents em.shiftRightOne (x / 2) := by
  obtain ⟨m, round, sticky⟩ := em
  have hdiv : (m : ℚ) = 2 * (m / 2 : Nat) + (m % 2 : Nat) := by
    exact_mod_cast (Nat.div_add_mod m 2).symm
  obtain hmod | hmod := Nat.mod_two_eq_zero_or_one m
  · -- The bit that goes out is clear.
    rw [hmod, Nat.cast_zero] at hdiv
    cases round <;> cases sticky <;>
      simp only [Represents, ExtendedMantissa.shiftRightOne, hmod] at h ⊢
    · show x / 2 = _
      linarith
    · show _ < _ ∧ _ < _
      constructor <;> linarith
    · show _ < _ ∧ _ < _
      constructor <;> linarith
    · show _ < _ ∧ _ < _
      constructor <;> linarith
  · -- The bit that goes out is set.
    rw [hmod, Nat.cast_one] at hdiv
    cases round <;> cases sticky <;>
      simp only [Represents, ExtendedMantissa.shiftRightOne, hmod] at h ⊢
    · show x / 2 = _
      linarith
    · show _ < _ ∧ _ < _
      constructor <;> linarith
    · show _ < _ ∧ _ < _
      constructor <;> linarith
    · show _ < _ ∧ _ < _
      constructor <;> linarith

/-- Shifting keeps what is known of the number. -/
theorem Represents.shiftRight (h : Represents em x) (n : Nat) :
    Represents (em >>> n) (x / 2 ^ n) := by
  induction n with
  | zero =>
    rw [pow_zero, div_one]
    exact h
  | succ n ih =>
    rw [pow_succ, ← div_div]
    exact ih.shiftRightOne

theorem represents_accuracy {m : Nat} {num den : Nat} (hden : 0 < den) (hlt : num < den) :
    Represents (.ofMantissaAndAccuracy m (UnpackedFloat.accuracyOfFraction num den))
      (m + num / den) := by
  have hden' : (0 : ℚ) < den := by exact_mod_cast hden
  have hlt' : (num : ℚ) / den < 1 := (div_lt_one hden').2 (by exact_mod_cast hlt)
  unfold UnpackedFloat.accuracyOfFraction
  split
  · next hzero =>
    rw [hzero]
    show (m : ℚ) + (0 : Nat) / den = m
    simp
  · next hne =>
    have hpos : (0 : ℚ) < num / den := div_pos (by exact_mod_cast Nat.pos_of_ne_zero hne) hden'
    obtain h | h | h := lt_trichotomy (2 * num) den
    · have hhalf : (num : ℚ) / den < 1 / 2 := by
        rw [div_lt_div_iff₀ hden' two_pos]
        exact_mod_cast (by omega : num * 2 < 1 * den)
      rw [Nat.compare_eq_lt.2 h]
      show (m : ℚ) < _ ∧ _ < (m : ℚ) + 1 / 2
      constructor <;> linarith
    · have hhalf : (num : ℚ) / den = 1 / 2 := by
        rw [div_eq_div_iff hden'.ne' two_ne_zero]
        exact_mod_cast (by omega : num * 2 = 1 * den)
      rw [Nat.compare_eq_eq.2 h]
      show _ = (m : ℚ) + _
      linarith
    · have hhalf : (1 : ℚ) / 2 < num / den := by
        rw [div_lt_div_iff₀ two_pos hden']
        exact_mod_cast (by omega : 1 * den < num * 2)
      rw [Nat.compare_eq_gt.2 h]
      show (m : ℚ) + 1 / 2 < _ ∧ _ < (m : ℚ) + 1
      constructor <;> linarith

/-! ## §3 The last place -/

/-- The exponent of the last binary place of a positive number when it is stored. -/
def lastPlace (x : ℚ) : ℤ := max (Int.log 2 x - 52) (-1074)

theorem lastPlace_eq {e : ℤ} (hx : 0 < x) (hmin : -1074 ≤ e) (hlt : x < 2 ^ (e + 53))
    (hfull : 2 ^ (e + 52) ≤ x ∨ e = -1074) : lastPlace x = e := by
  have hhigh : Int.log 2 x < e + 53 :=
    (Int.lt_zpow_iff_log_lt one_lt_two hx).1 (by exact_mod_cast hlt)
  unfold lastPlace
  obtain hlow | rfl := hfull
  · have hlow : e + 52 ≤ Int.log 2 x :=
      (Int.zpow_le_iff_le_log one_lt_two hx).1 (by exact_mod_cast hlow)
    omega
  · omega

theorem le_lastPlace : -1074 ≤ lastPlace x := le_max_right _ _

theorem lt_zpow_lastPlace (hx : 0 < x) : x < 2 ^ (lastPlace x + 53) := by
  have hlog : Int.log 2 x < lastPlace x + 53 := by
    unfold lastPlace
    omega
  exact_mod_cast (Int.lt_zpow_iff_log_lt one_lt_two hx).2 hlog

theorem zpow_lastPlace_le (hx : 0 < x) : 2 ^ (lastPlace x + 52) ≤ x ∨ lastPlace x = -1074 := by
  by_cases hmin : lastPlace x = -1074
  · exact .inr hmin
  · left
    have hlog : lastPlace x + 52 ≤ Int.log 2 x := by
      unfold lastPlace at hmin ⊢
      omega
    exact_mod_cast (Int.zpow_le_iff_le_log one_lt_two hx).2 hlog

/-! ## §4 The nearest magnitude -/

/-- The number that a magnitude stands for. -/
def Dyadic.toRat (d : Dyadic) : ℚ := d.mantissa * 2 ^ d.exponent

/-- The magnitude nearest to a positive number. -/
def nearest (x : ℚ) : Dyadic :=
  let m := roundEven (x / 2 ^ lastPlace x)
  -- Rounding up may lead to the next power of two.
  if m = 2 ^ 53 then ⟨2 ^ 52, lastPlace x + 1⟩ else ⟨m, lastPlace x⟩

theorem div_lastPlace_lt (hx : 0 < x) : x / 2 ^ lastPlace x < 2 ^ 53 := by
  rw [div_lt_iff₀ (by positivity), ← zpow_natCast, ← zpow_add₀ two_ne_zero, add_comm]
  exact lt_zpow_lastPlace hx

theorem near_nearest (hx : 0 < x) :
    Near (x / 2 ^ lastPlace x) (roundEven (x / 2 ^ lastPlace x)) :=
  near_roundEven (by positivity)

theorem roundEven_le (hx : 0 < x) : roundEven (x / 2 ^ lastPlace x) ≤ 2 ^ 53 := by
  have hmono := roundEven_mono (by positivity) (div_lastPlace_lt hx).le
  have hwhole : roundEven (2 ^ 53) = 2 ^ 53 := by exact_mod_cast roundEven_natCast (n := 2 ^ 53)
  rwa [hwhole] at hmono

theorem toRat_nearest :
    (nearest x).toRat = roundEven (x / 2 ^ lastPlace x) * 2 ^ lastPlace x := by
  unfold nearest
  dsimp only
  split
  · next h =>
    rw [h, Dyadic.toRat, zpow_add_one₀ two_ne_zero]
    push_cast
    ring
  · rfl

theorem mantissa_full (hx : 0 < x) :
    2 ^ 52 ≤ roundEven (x / 2 ^ lastPlace x) ∨ lastPlace x = -1074 := by
  obtain hfull | hmin := zpow_lastPlace_le hx
  · left
    have hquotient : 2 ^ 52 ≤ x / 2 ^ lastPlace x := by
      rw [le_div_iff₀ (by positivity), ← zpow_natCast, ← zpow_add₀ two_ne_zero, add_comm]
      exact hfull
    have hmono := roundEven_mono (by positivity) hquotient
    have hwhole : roundEven (2 ^ 52) = 2 ^ 52 := by exact_mod_cast roundEven_natCast (n := 2 ^ 52)
    rwa [hwhole] at hmono
  · exact .inr hmin

/-- The nearest magnitude is larger for larger numbers. -/
theorem toRat_nearest_mono {y : ℚ} (hx : 0 < x) (hxy : x ≤ y) :
    (nearest x).toRat ≤ (nearest y).toRat := by
  have hy : 0 < y := hx.trans_le hxy
  rw [toRat_nearest, toRat_nearest]
  have hplace : lastPlace x ≤ lastPlace y := by
    have hlog : Int.log 2 x ≤ Int.log 2 y := Int.log_mono_right hx hxy
    unfold lastPlace
    omega
  obtain heq | hlt := hplace.eq_or_lt
  · rw [heq]
    have hquotient : x / 2 ^ lastPlace y ≤ y / 2 ^ lastPlace y :=
      div_le_div_of_nonneg_right hxy (by positivity)
    have hround : (roundEven (x / 2 ^ lastPlace y) : ℚ) ≤ roundEven (y / 2 ^ lastPlace y) := by
      exact_mod_cast roundEven_mono (by positivity) hquotient
    exact mul_le_mul_of_nonneg_right hround (by positivity)
  · -- A power of two lies between the two.
    have hlow : (roundEven (x / 2 ^ lastPlace x) : ℚ) ≤ 2 ^ 53 := by
      exact_mod_cast roundEven_le hx
    have hhigh : (2 : ℚ) ^ 52 ≤ roundEven (y / 2 ^ lastPlace y) := by
      obtain hfull | hmin := mantissa_full hy
      · exact_mod_cast hfull
      · have := le_lastPlace (x := x)
        omega
    calc (roundEven (x / 2 ^ lastPlace x) : ℚ) * 2 ^ lastPlace x
        ≤ 2 ^ 53 * 2 ^ lastPlace x := mul_le_mul_of_nonneg_right hlow (by positivity)
      _ = 2 ^ 52 * 2 ^ (lastPlace x + 1) := by
        rw [zpow_add_one₀ two_ne_zero]
        ring
      _ ≤ 2 ^ 52 * 2 ^ lastPlace y := by
        apply mul_le_mul_of_nonneg_left _ (by positivity)
        exact zpow_le_zpow_right₀ one_le_two hlt
      _ ≤ roundEven (y / 2 ^ lastPlace y) * 2 ^ lastPlace y :=
        mul_le_mul_of_nonneg_right hhigh (by positivity)

/-- The nearest magnitude is off by half a unit in the last place at most. -/
theorem toRat_nearest_le (hx : 0 < x) : (nearest x).toRat ≤ x + 2 ^ lastPlace x / 2 := by
  obtain ⟨hlow, -, -⟩ := near_nearest hx
  have hunit : (0 : ℚ) < 2 ^ lastPlace x := by positivity
  rw [toRat_nearest]
  have hscaled := mul_le_mul_of_nonneg_right hlow hunit.le
  rw [div_mul_cancel₀ _ hunit.ne'] at hscaled
  linarith

theorem le_toRat_nearest (hx : 0 < x) : x - 2 ^ lastPlace x / 2 ≤ (nearest x).toRat := by
  obtain ⟨-, hhigh, -⟩ := near_nearest hx
  have hunit : (0 : ℚ) < 2 ^ lastPlace x := by positivity
  rw [toRat_nearest]
  have hscaled := mul_le_mul_of_nonneg_right hhigh hunit.le
  rw [div_mul_cancel₀ _ hunit.ne'] at hscaled
  linarith

/-- In the normal range a unit in the last place is a small part of the number. -/
theorem zpow_lastPlace_le_div (hx : 2 ^ (-1022 : ℤ) ≤ x) : 2 ^ lastPlace x ≤ x / 2 ^ 52 := by
  have hpos : 0 < x := lt_of_lt_of_le (by positivity) hx
  have hlog : -1022 ≤ Int.log 2 x :=
    (Int.zpow_le_iff_le_log one_lt_two hpos).1 (by exact_mod_cast hx)
  have hplace : lastPlace x = Int.log 2 x - 52 := by
    unfold lastPlace
    omega
  rw [hplace, zpow_sub₀ two_ne_zero, le_div_iff₀ (by positivity), zpow_ofNat,
    div_mul_cancel₀ _ (by positivity)]
  exact_mod_cast (Int.zpow_le_iff_le_log one_lt_two hpos).2 le_rfl

/-- In the normal range the nearest magnitude is off by a small part at most. -/
theorem toRat_nearest_le_mul (hx : 2 ^ (-1022 : ℤ) ≤ x) :
    (nearest x).toRat ≤ x * (1 + 1 / 2 ^ 53) := by
  have hpos : 0 < x := lt_of_lt_of_le (by positivity) hx
  have hunit := zpow_lastPlace_le_div hx
  have herror := toRat_nearest_le hpos
  linarith

theorem toRat_nearest_pos (hx : 2 ^ (-1022 : ℤ) ≤ x) : 0 < (nearest x).toRat := by
  have hpos : 0 < x := lt_of_lt_of_le (by positivity) hx
  have hunit := zpow_lastPlace_le_div hx
  have herror := le_toRat_nearest hpos
  linarith

theorem nearest_stored (hx : 0 < x) : (nearest x).Stored := by
  unfold nearest
  dsimp only
  have hle := roundEven_le hx
  have hmin := le_lastPlace (x := x)
  split
  · exact ⟨by norm_num, by show (-1074 : ℤ) ≤ lastPlace x + 1; omega, .inl (le_refl _)⟩
  · next h => exact ⟨lt_of_le_of_ne hle h, hmin, mantissa_full hx⟩

variable {d : Dyadic}

/-- A number that is near to a magnitude in its last place is rounded to it. -/
theorem nearest_eq (hd : d.Stored) (hx : 0 < x) (hnear : Near (x / 2 ^ d.exponent) d.mantissa)
    (hfull : 2 ^ (d.exponent + 52) ≤ x ∨ d.exponent = -1074) : nearest x = d := by
  obtain ⟨m, e⟩ := d
  dsimp only at hnear hfull
  have hm : m < 2 ^ 53 := hd.mantissa_lt
  have hlt : x < 2 ^ (e + 53) := by
    have hm' : (m : ℚ) + 1 ≤ 2 ^ 53 := by exact_mod_cast hm
    have hquotient : x / 2 ^ e < 2 ^ 53 := by linarith [hnear.2.1]
    rw [div_lt_iff₀ (by positivity), ← zpow_natCast, ← zpow_add₀ two_ne_zero, add_comm] at hquotient
    exact hquotient
  have hplace : lastPlace x = e := lastPlace_eq hx hd.le_exponent hlt hfull
  unfold nearest
  dsimp only
  rw [hplace, (roundEven_eq_iff (by positivity)).2 hnear, if_neg hm.ne]

/-- A number just below a power of two is rounded to it; the places are closer there. -/
theorem nearest_eq_of_narrow {e : ℤ} (hx : 0 < x) (he : -1074 < e) (hlt : x < 2 ^ (e + 52))
    (hlow : (2 ^ 53 - 1 / 2) * 2 ^ (e - 1) ≤ x) : nearest x = ⟨2 ^ 52, e⟩ := by
  have hunit : (0 : ℚ) < 2 ^ (e - 1) := by positivity
  have hplace : lastPlace x = e - 1 := by
    apply lastPlace_eq hx (by omega)
    · rwa [show e - 1 + 53 = e + 52 by ring]
    · left
      calc (2 : ℚ) ^ (e - 1 + 52) = 2 ^ 52 * 2 ^ (e - 1) := by
            rw [zpow_add₀ two_ne_zero, mul_comm]
            rfl
        _ ≤ (2 ^ 53 - 1 / 2) * 2 ^ (e - 1) := mul_le_mul_of_nonneg_right (by norm_num) hunit.le
        _ ≤ x := hlow
  have hround : roundEven (x / 2 ^ (e - 1)) = 2 ^ 53 := by
    rw [roundEven_eq_iff (by positivity)]
    have hge : 2 ^ 53 - 1 / 2 ≤ x / 2 ^ (e - 1) := (le_div_iff₀ hunit).2 hlow
    have hle : x / 2 ^ (e - 1) < 2 ^ 53 := by
      rw [div_lt_iff₀ hunit, ← zpow_natCast, ← zpow_add₀ two_ne_zero]
      rwa [show ((53 : ℕ) : ℤ) + (e - 1) = e + 52 by push_cast; ring]
    apply near_of_even _ _ (by norm_num) <;> push_cast <;> linarith
  unfold nearest
  dsimp only
  rw [hplace, hround, if_pos rfl]
  simp

/-- A number that has no place behind the last one is rounded to itself. -/
theorem toRat_nearest_of_whole {n : Nat} (h : x = n * 2 ^ lastPlace x) : (nearest x).toRat = x := by
  have hquotient : x / 2 ^ lastPlace x = n := (div_eq_iff (by positivity)).2 h
  rw [toRat_nearest, hquotient, roundEven_natCast]
  exact h.symm

/-- A whole number that is not too large is stored as it is. -/
theorem toRat_nearest_natCast {n : Nat} (hn : 0 < n) (hlt : n < 2 ^ 53) :
    (nearest (n : ℚ)).toRat = n := by
  have hn' : (0 : ℚ) < n := by exact_mod_cast hn
  have hlog : Int.log 2 (n : ℚ) < 53 :=
    (Int.lt_zpow_iff_log_lt one_lt_two hn').1 (by exact_mod_cast hlt)
  have hplace : ((-lastPlace (n : ℚ)).toNat : ℤ) = -lastPlace n := by
    unfold lastPlace
    omega
  apply toRat_nearest_of_whole (n := n * 2 ^ (-lastPlace (n : ℚ)).toNat)
  push_cast
  rw [← zpow_natCast, hplace, mul_assoc, ← zpow_add₀ two_ne_zero, neg_add_cancel, zpow_zero,
    mul_one]

theorem toRat_nearest_one : (nearest 1).toRat = 1 := by
  have hone := toRat_nearest_natCast Nat.one_pos (by norm_num)
  rwa [Nat.cast_one] at hone

/-- A whole number is stored as one at least, and as hardly more than it is. -/
theorem toRat_nearest_count {n : Nat} (hn : 1 ≤ n) :
    1 ≤ (nearest (n : ℚ)).toRat ∧ (nearest (n : ℚ)).toRat ≤ n * (1 + 1 / 2 ^ 53) := by
  have hn' : (1 : ℚ) ≤ n := by exact_mod_cast hn
  constructor
  · have hmono := toRat_nearest_mono one_pos hn'
    rwa [toRat_nearest_one] at hmono
  · apply toRat_nearest_le_mul
    exact (zpow_le_one_of_nonpos₀ one_le_two (by norm_num)).trans hn'

theorem exponent_nearest_le (hx : 0 < x) (hlt : x < 2 ^ (1023 : ℤ)) :
    (nearest x).exponent ≤ 971 := by
  have hlog : Int.log 2 x < 1023 :=
    (Int.lt_zpow_iff_log_lt one_lt_two hx).1 (by rwa [Nat.cast_ofNat])
  have hplace : lastPlace x ≤ 970 := by
    unfold lastPlace
    omega
  unfold nearest
  dsimp only
  split
  · show lastPlace x + 1 ≤ 971
    omega
  · show lastPlace x ≤ 971
    omega

theorem mantissa_pos_iff : 0 < d.mantissa ↔ 0 < d.toRat := by
  have hunit : (0 : ℚ) < 2 ^ d.exponent := by positivity
  rw [Dyadic.toRat, mul_pos_iff_of_pos_right hunit, Nat.cast_pos]

/-! ## §5 Rounding -/

theorem shiftToExponent_eq {m : Nat} {e t : ℤ} {accuracy : Accuracy} (he : e ≤ t) :
    UnpackedFloat.shiftToExponent m e accuracy t =
      (ExtendedMantissa.ofMantissaAndAccuracy m accuracy >>> (t - e).toNat, t) := by
  have hexponent : e + ((t - e).toNat : ℤ) = t := by omega
  unfold UnpackedFloat.shiftToExponent
  dsimp only
  rw [hexponent]

theorem targetExponent_eq {m : Nat} {e : ℤ} :
    Format.binary64.targetExponent (Float.Model.totalExponent m e) =
      max (m.log2 + e - 52) (-1074) := by
  unfold Format.targetExponent Float.Model.totalExponent
  show max _ (-1074 : ℤ) = _
  show max ((m.log2 : ℤ) + 1 + e - 53) _ = _
  omega

theorem mantissa_ofMantissaAndAccuracy {m : Nat} {accuracy : Accuracy} :
    (ExtendedMantissa.ofMantissaAndAccuracy m accuracy).mantissa = m := by
  cases accuracy with
  | exact => rfl
  | inexact o => cases o <;> rfl

/-- The target exponent is the last place of the number that is rounded. -/
theorem targetExponent_eq_lastPlace {m : Nat} {e : ℤ} {accuracy : Accuracy} (hx : 0 < x)
    (hrep : Represents (.ofMantissaAndAccuracy m accuracy) (x / 2 ^ e)) (he : e ≤ lastPlace x) :
    Format.binary64.targetExponent (Float.Model.totalExponent m e) = lastPlace x := by
  have hunit : (0 : ℚ) < 2 ^ e := by positivity
  obtain ⟨hlow, hhigh⟩ := hrep.floor
  rw [mantissa_ofMantissaAndAccuracy] at hlow hhigh
  rw [targetExponent_eq]
  by_cases hm : m = 0
  · -- The number lies below the first place, so that the last place is the smallest one.
    have hlt : x < 2 ^ e := by
      rw [hm, div_lt_iff₀ hunit] at hhigh
      simpa using hhigh
    have hlog : Int.log 2 x < e := (Int.lt_zpow_iff_log_lt one_lt_two hx).1 (by exact_mod_cast hlt)
    unfold lastPlace at he ⊢
    rw [hm]
    show max ((0 : ℤ) + e - 52) _ = _
    omega
  · have hlog : Int.log 2 x = m.log2 + e := by
      have hge : (2 : ℚ) ^ (m.log2 + e) ≤ x := by
        have hpow : (2 : ℚ) ^ m.log2 ≤ m := by exact_mod_cast Nat.log2_self_le hm
        rw [zpow_add₀ two_ne_zero, zpow_natCast]
        exact (le_div_iff₀ hunit).1 (hpow.trans hlow)
      have hlt : x < (2 : ℚ) ^ (m.log2 + e + 1) := by
        have hpow : (m : ℚ) + 1 ≤ 2 ^ (m.log2 + 1) := by exact_mod_cast Nat.lt_log2_self
        rw [show (m.log2 : ℤ) + e + 1 = (m.log2 + 1 : Nat) + e by push_cast; ring,
          zpow_add₀ two_ne_zero, zpow_natCast]
        exact (div_lt_iff₀ hunit).1 (hhigh.trans_le hpow)
      have hlow := (Int.zpow_le_iff_le_log one_lt_two hx).1 (by exact_mod_cast hge)
      have hhigh := (Int.lt_zpow_iff_log_lt one_lt_two hx).1 (by exact_mod_cast hlt)
      omega
    unfold lastPlace
    rw [hlog]

/-- Rounding gives the nearest magnitude, if no place is missing to begin with. -/
theorem roundWithAccuracy_eq {negative : Bool} {m : Nat} {e : ℤ} {accuracy : Accuracy} (hx : 0 < x)
    (hrep : Represents (.ofMantissaAndAccuracy m accuracy) (x / 2 ^ e)) (he : e ≤ lastPlace x) :
    UnpackedFloat.roundWithAccuracy Format.binary64 (signOf negative) m e accuracy =
      (nearest x).unpacked negative := by
  have hround : (ExtendedMantissa.ofMantissaAndAccuracy m accuracy >>>
      (lastPlace x - e).toNat).roundedMantissa = roundEven (x / 2 ^ lastPlace x) := by
    have hshift := (hrep.shiftRight (lastPlace x - e).toNat).near
    rw [div_div, ← zpow_natCast, ← zpow_add₀ two_ne_zero,
      show e + ((lastPlace x - e).toNat : ℤ) = lastPlace x by omega] at hshift
    exact ((roundEven_eq_iff (by positivity)).2 hshift).symm
  have hle := roundEven_le hx
  have hmin := le_lastPlace (x := x)
  unfold UnpackedFloat.roundWithAccuracy UnpackedFloat.shiftToTargetExponent
  dsimp only
  rw [targetExponent_eq_lastPlace hx hrep he, shiftToExponent_eq he]
  dsimp only
  rw [hround, targetExponent_eq]
  unfold nearest
  dsimp only
  by_cases hcarry : roundEven (x / 2 ^ lastPlace x) = 2 ^ 53
  · have htarget : max ((Nat.log2 (2 ^ 53) : ℤ) + lastPlace x - 52) (-1074) = lastPlace x + 1 := by
      rw [Nat.log2_two_pow]
      omega
    have hone : (lastPlace x + 1 - lastPlace x).toNat = 1 := by omega
    rw [hcarry, htarget, shiftToExponent_eq (by omega), hone, if_pos rfl]
    rfl
  · have htarget : (max ((Nat.log2 (roundEven (x / 2 ^ lastPlace x)) : ℤ) + lastPlace x - 52)
        (-1074) - lastPlace x).toNat = 0 := by
      have hlog : (roundEven (x / 2 ^ lastPlace x)).log2 ≤ 52 := by
        by_cases hzero : roundEven (x / 2 ^ lastPlace x) = 0
        · rw [hzero]
          decide
        · exact Nat.le_of_lt_succ ((Nat.log2_lt hzero).2 (lt_of_le_of_ne hle hcarry))
      omega
    unfold UnpackedFloat.shiftToExponent
    dsimp only
    rw [htarget, if_neg hcarry]
    unfold Dyadic.unpacked
    simp only [Nat.cast_zero, add_zero]
    rfl

end PhysicsLab.Number
