import PhysicsLab.Proofs.Settings
import PhysicsLab.Proofs.Simulation.Instant
import PhysicsLab.Proofs.Simulation.Run

/-!
# The step stays between floor and ceiling

The nominal step of a clock is scaled in binary floating point, rounded to nanoseconds and then
clamped on one side only: a step that shrinks against the floor, one that grows against the ceiling.
The other side is kept by the factors, since rounding does not lead past a number that is stored
exactly.  A growth factor that is NaN passes the check of its range and keeps nothing: the step
falls to one nanosecond.

## Main definitions

* `Clock.Reaches` — the clocks that arise by accepted and rejected attempts
* `Clock.Bounded` — what stays true of them

## Main statements

* `Clock.scaleStep_le`, `Clock.le_scaleStep` — shrunk and grown steps
* `Clock.step_within_bounds`, `Clock.step_below_floor`
-/

namespace PhysicsLab

open PhysicsLab.Number

/-! ## §1 Scaled steps -/

namespace Clock

variable {c c' : Clock} {settings : SimulationSettings} {x : ℚ} {u : Float} {m n : Nat}

/-- The product that a scaled step is rounded from. -/
theorem isExact_scaled (hn : 1 ≤ n) (hlimit : n ≤ countLimit) (hu : IsExact x u) (hx : 0 < x)
    (hhigh : x ≤ 16) :
    IsExact (nearest ((nearest (n : ℚ)).toRat * x)).toRat (Float.ofNat n * u) := by
  have hn' : (0 : ℚ) < n := by exact_mod_cast hn
  obtain ⟨hone, hstep⟩ := toRat_nearest_count hn
  have hsize : (n : ℚ) ≤ 2 ^ 64 := by
    have hword : n ≤ 2 ^ 64 := hlimit.trans (by decide)
    exact_mod_cast hword
  have hexact : IsExact (nearest (n : ℚ)).toRat (Float.ofNat n) := by
    rw [ofNat_eq hn]
    exact isExact_toFloat hn' (lt_huge (by linarith))
  have hpos : 0 < (nearest (n : ℚ)).toRat := by linarith
  rw [hexact.mul hu hpos hx]
  apply isExact_toFloat (mul_pos hpos hx)
  apply lt_huge
  calc (nearest (n : ℚ)).toRat * x ≤ (n * (1 + 1 / 2 ^ 53)) * 16 := by gcongr
    _ ≤ (2 ^ 64 * (1 + 1 / 2 ^ 53)) * 16 := by gcongr
    _ < 2 ^ 128 := by norm_num

/-- A factor that is a little less than one does not let a step grow. -/
theorem scaleStep_le (hn : 1 ≤ n) (hlimit : n ≤ countLimit) (hu : IsExact x u) (hlow : 1 / 128 ≤ x)
    (hhigh : x ≤ 255 / 256) : scaleStep n u ≤ n := by
  have hx : 0 < x := by linarith
  obtain ⟨hone, hstep⟩ := toRat_nearest_count hn
  have hproduct : (nearest ((nearest (n : ℚ)).toRat * x)).toRat ≤ n := by
    have hnormal : (2 : ℚ) ^ (-1022 : ℤ) ≤ (nearest (n : ℚ)).toRat * x := by
      have hsmall : (2 : ℚ) ^ (-1022 : ℤ) ≤ 2 ^ (-7 : ℤ) :=
        zpow_le_zpow_right₀ one_le_two (by norm_num)
      calc (2 : ℚ) ^ (-1022 : ℤ) ≤ 2 ^ (-7 : ℤ) := hsmall
        _ = 1 * (1 / 128) := by norm_num
        _ ≤ (nearest (n : ℚ)).toRat * x := by gcongr
    -- Both roundings together lead up by less than the factor leads down.
    calc (nearest ((nearest (n : ℚ)).toRat * x)).toRat
        ≤ (nearest (n : ℚ)).toRat * x * (1 + 1 / 2 ^ 53) := toRat_nearest_le_mul hnormal
      _ ≤ n * (1 + 1 / 2 ^ 53) * (255 / 256) * (1 + 1 / 2 ^ 53) := by gcongr
      _ = n * ((1 + 1 / 2 ^ 53) * (255 / 256) * (1 + 1 / 2 ^ 53)) := by ring
      _ ≤ n * 1 := by gcongr; norm_num
      _ = n := mul_one _
  have hcount := (isExact_scaled hn hlimit hu hx (by linarith)).toCount_le hproduct
  exact Nat.max_le.2 ⟨hn, hcount⟩

/-- A factor of one at least does not lead below a step that is stored exactly. -/
theorem le_scaleStep (hm : 1 ≤ m) (hexact : m < 2 ^ 53) (hmn : m ≤ n) (hlimit : n ≤ countLimit)
    (hu : IsExact x u) (hlow : 1 ≤ x) (hhigh : x ≤ 16) : m ≤ scaleStep n u := by
  have hm' : (0 : ℚ) < m := by exact_mod_cast hm
  have hstep : (m : ℚ) ≤ (nearest (n : ℚ)).toRat := by
    have hmono := toRat_nearest_mono hm' (Nat.cast_le.2 hmn)
    rwa [toRat_nearest_natCast hm hexact] at hmono
  have hproduct : (m : ℚ) ≤ (nearest ((nearest (n : ℚ)).toRat * x)).toRat := by
    have hle : (m : ℚ) ≤ (nearest (n : ℚ)).toRat * x := by nlinarith
    have hmono := toRat_nearest_mono hm' hle
    rwa [toRat_nearest_natCast hm hexact] at hmono
  have hcount := (isExact_scaled (hm.trans hmn) hlimit hu (by linarith) hhigh).le_toCount hproduct
    (hmn.trans hlimit)
  exact hcount.trans (Nat.le_max_right _ _)

/-- A factor that is NaN leads to the smallest step there is. -/
theorem scaleStep_of_isNaN (hu : u.isNaN = true) : scaleStep n u = 1 := by
  have hunpack := unpack_of_isNaN hu
  have hproduct (v : Float) : v * u = ⟨Float.Model.pack .notANumber⟩ := by
    show (⟨Float.Model.pack (Float.Model.UnpackedFloat.mul _ v.toModel.unpack u.toModel.unpack)⟩ :
      Float) = _
    rw [hunpack]
    cases v.toModel.unpack <;> rfl
  rw [scaleStep, hproduct]
  decide

/-! ## §2 Settings -/

/-- A step of up to ten seconds is stored exactly. -/
theorem stepOf_le (hu : IsExact x u) (hx : 0 < x) (hhigh : x ≤ 10) : stepOf u ≤ 10 ^ 10 := by
  have hsize : x * 10 ^ 9 ≤ (10 ^ 10 : Nat) := by
    push_cast
    linarith
  exact Nat.max_le.2 ⟨by norm_num, Instant.nanos_ofSeconds_le hu hx hsize (by norm_num)⟩

theorem stepOf_mono {y : ℚ} {v : Float} (hu : IsExact x u) (hv : IsExact y v) (hx : 0 < x)
    (hxy : x ≤ y) : stepOf u ≤ stepOf v :=
  max_le_max_left 1 (Instant.nanos_ofSeconds_mono hu hv hx hxy)

theorem stepOf_le_countLimit : stepOf u ≤ countLimit := by
  have hnanos : (Instant.ofSeconds u).nanos ≤ countLimit := by
    unfold Instant.ofSeconds
    split
    · exact toCount_le_countLimit
    · exact Nat.zero_le _
  exact Nat.max_le.2 ⟨by decide, hnanos⟩

theorem one_le_stepOf : 1 ≤ stepOf u := Nat.le_max_left _ _

/-- What passes the check of a range: NaN, or a number from one rational to another. -/
def Passes (a b : ℚ) (u : Float) : Prop :=
  u.isNaN = true ∨ ∃ x, IsExact x u ∧ a ≤ x ∧ x ≤ b

theorem passes_of_range {a b : ℚ} {low high : Float} (hlow : IsExact a low) (ha : 0 < a)
    (hhigh : IsExact b high) (hb : 0 < b) (hge : ¬ u < low) (hle : ¬ high < u) : Passes a b u := by
  cases hnan : u.isNaN with
  | true => exact .inl hnan
  | false =>
    obtain ⟨hexact, hx⟩ := exact_of_range hlow ha hhigh hb hnan hge hle
    exact .inr ⟨_, hexact, hx⟩

theorem Passes.mono {a a' b b' : ℚ} (h : Passes a b u) (ha : a' ≤ a) (hb : b ≤ b') :
    Passes a' b' u := by
  obtain hnan | ⟨x, hexact, hge, hle⟩ := h
  · exact .inl hnan
  · exact .inr ⟨x, hexact, ha.trans hge, hle.trans hb⟩

/-- What the check of the settings says about the first step and the smallest one. -/
theorem exact_steps_of_check (h : settings.check = .ok ()) :
    ∃ x, IsExact x settings.timeStep ∧ 0 < x ∧ x ≤ 10 ∧
      (settings.adaptive = true → ∃ y, IsExact y settings.minTimeStep ∧ 0 < y ∧ y ≤ x) := by
  obtain ⟨hranges, hconsistent⟩ := SimulationSettings.check_eq_ok_iff.1 h
  -- The ends of the range as they are stored.
  have htiny := isExact_of_magnitude (u := 1e-12) (d := ⟨4951760157141521, -92⟩)
    (by decide) (by decide) (by decide)
  have hten := isExact_of_magnitude (u := 10.0) (d := ⟨5629499534213120, -49⟩)
    (by decide) (by decide) (by decide)
  have hpos : 0 < Number.Dyadic.toRat ⟨4951760157141521, -92⟩ := by
    norm_num [Number.Dyadic.toRat]
  obtain ⟨hexact, hge, hle⟩ := exact_of_range htiny hpos hten
    (by norm_num [Number.Dyadic.toRat]) (isNaN_of_isFinite hconsistent.finite.2)
    hranges.timeStep.1 hranges.timeStep.2
  have hsteppos : 0 < absolute settings.timeStep := hpos.trans_le hge
  refine ⟨_, hexact, hsteppos, hle.trans (by norm_num [Number.Dyadic.toRat]), fun hadaptive => ?_⟩
  -- The smallest step is not above the first one, so that it is finite too.
  obtain ⟨hnan, hnotabove⟩ := not_lt_of_le (hconsistent.step_within hadaptive).1
  obtain ⟨hmin, hminge, hminle⟩ :=
    exact_of_range htiny hpos hexact hsteppos hnan hranges.minTimeStep hnotabove
  exact ⟨_, hmin, hpos.trans_le hminge, hminle⟩

/-- What the checks of the settings say about the factors and the smallest step. -/
structure Admitted (s : SimulationSettings) : Prop where
  shrink : Passes (1 / 128) (255 / 256) s.shrinkFactor
  growth : Passes 1 16 s.growthFactor
  floor : s.adaptive = true → stepOf s.minTimeStep ≤ 10 ^ 10

theorem admitted_of_check (h : settings.check = .ok ()) : Admitted settings := by
  obtain ⟨hranges, -⟩ := SimulationSettings.check_eq_ok_iff.1 h
  refine ⟨?_, ?_, fun hadaptive => ?_⟩
  · have hlow := isExact_of_magnitude (u := 0.01) (d := ⟨5764607523034235, -59⟩)
      (by decide) (by decide) (by decide)
    have hhigh := isExact_of_magnitude (u := 0.99) (d := ⟨8917127262193582, -53⟩)
      (by decide) (by decide) (by decide)
    have hpasses := passes_of_range hlow (by norm_num [Number.Dyadic.toRat]) hhigh
      (by norm_num [Number.Dyadic.toRat]) hranges.shrinkFactor.1 hranges.shrinkFactor.2
    apply hpasses.mono <;> norm_num [Number.Dyadic.toRat]
  · have hone := isExact_of_magnitude (u := 1.0) (d := ⟨2 ^ 52, -52⟩)
      (by decide) (by decide) (by decide)
    have hten := isExact_of_magnitude (u := 10.0) (d := ⟨5629499534213120, -49⟩)
      (by decide) (by decide) (by decide)
    have hpasses := passes_of_range hone (by norm_num [Number.Dyadic.toRat]) hten
      (by norm_num [Number.Dyadic.toRat]) hranges.growthFactor.1 hranges.growthFactor.2
    apply hpasses.mono <;> norm_num [Number.Dyadic.toRat]
  · obtain ⟨x, -, -, hten, hmin⟩ := exact_steps_of_check h
    obtain ⟨y, hexact, hpos, hle⟩ := hmin hadaptive
    exact stepOf_le hexact hpos (hle.trans hten)

/-! ## §3 Sequences of attempts -/

/-- What an accepted or rejected attempt keeps. -/
structure Bounded (c : Clock) : Prop where
  one_le_floor : 1 ≤ c.floor
  floor_le_ceiling : c.floor ≤ c.ceiling
  ceiling_le : c.ceiling ≤ countLimit
  one_le_step : 1 ≤ c.step
  step_le_ceiling : c.step ≤ c.ceiling
  floor_le_step : c.growthFactor.isNaN = false → c.floor ≤ c.step
  floor_exact : c.adaptive = true → c.floor < 2 ^ 53
  shrink : Passes (1 / 128) (255 / 256) c.shrinkFactor
  growth : Passes 1 16 c.growthFactor

theorem bounded_ofSettings (h : settings.check = .ok ()) : (ofSettings settings).Bounded := by
  obtain ⟨hshrink, hgrowth, hfloor⟩ := admitted_of_check h
  have hone : 1 ≤ floorOf settings := by
    unfold floorOf
    split
    · exact one_le_stepOf
    · exact Nat.le_min.2 ⟨one_le_stepOf, one_le_stepOf⟩
  have hrange : floorOf settings ≤ ceilingOf settings := by
    unfold floorOf ceilingOf
    split
    · exact Nat.le_max_right _ _
    · exact Nat.min_le_right _ _
  have hlimit : ceilingOf settings ≤ countLimit := by
    unfold ceilingOf
    split
    · exact Nat.max_le.2 ⟨stepOf_le_countLimit, stepOf_le_countLimit⟩
    · exact stepOf_le_countLimit
  exact {
    one_le_floor := hone
    floor_le_ceiling := hrange
    ceiling_le := hlimit
    one_le_step := hone.trans (Nat.le_max_left _ _)
    step_le_ceiling := Nat.max_le.2 ⟨hrange, Nat.min_le_right _ _⟩
    floor_le_step := fun _ => Nat.le_max_left _ _
    floor_exact := fun hadaptive => by
      have hadaptive' : settings.adaptive = true := hadaptive
      have hten := hfloor hadaptive'
      show floorOf settings < 2 ^ 53
      rw [floorOf, if_pos hadaptive']
      omega
    shrink := hshrink
    growth := hgrowth }

theorem Bounded.adapt (h : c.Bounded) (error : Float) :
    1 ≤ (c.adapt error).1 ∧ (c.adapt error).1 ≤ c.ceiling ∧
      (c.growthFactor.isNaN = false → c.floor ≤ (c.adapt error).1) := by
  have hlimit : c.step ≤ countLimit := h.step_le_ceiling.trans h.ceiling_le
  unfold Clock.adapt
  split
  · exact ⟨h.one_le_step, h.step_le_ceiling, h.floor_le_step⟩
  · next hadaptive =>
    split
    · -- The step shrinks, and is kept above the floor.
      have hshrunk : scaleStep c.step c.shrinkFactor ≤ c.ceiling := by
        obtain hnan | ⟨x, hexact, hlow, hhigh⟩ := h.shrink
        · rw [scaleStep_of_isNaN hnan]
          exact h.one_le_step.trans h.step_le_ceiling
        · exact (scaleStep_le h.one_le_step hlimit hexact hlow hhigh).trans h.step_le_ceiling
      exact ⟨h.one_le_floor.trans (Nat.le_max_right _ _),
        Nat.max_le.2 ⟨hshrunk, h.floor_le_ceiling⟩, fun _ => Nat.le_max_right _ _⟩
    · split
      · -- The step grows, and is kept below the ceiling.
        refine ⟨Nat.le_min.2 ⟨Nat.le_max_left _ _, h.one_le_step.trans h.step_le_ceiling⟩,
          Nat.min_le_right _ _, fun hnan => Nat.le_min.2 ⟨?_, h.floor_le_ceiling⟩⟩
        obtain hnan' | ⟨x, hexact, hlow, hhigh⟩ := h.growth
        · rw [hnan] at hnan'
          cases hnan'
        · have hadaptive' : c.adaptive = true := by
            simp only [Bool.or_eq_true, Bool.not_eq_true', not_or, Bool.not_eq_false] at hadaptive
            exact hadaptive.1
          exact le_scaleStep h.one_le_floor (h.floor_exact hadaptive') (h.floor_le_step hnan) hlimit
            hexact hlow hhigh
      · exact ⟨h.one_le_step, h.step_le_ceiling, h.floor_le_step⟩

theorem Bounded.accept (h : c.Bounded) {taken : Nat} {error : Float} :
    (c.accept taken error).Bounded := by
  obtain ⟨hone, hceiling, hfloor⟩ := h.adapt error
  exact { h with one_le_step := hone, step_le_ceiling := hceiling, floor_le_step := hfloor }

theorem Bounded.reject (h : c.Bounded) (hreject : c.reject = .ok c') : c'.Bounded := by
  obtain ⟨hhalved, rfl⟩ := reject_eq_ok_iff.1 hreject
  exact { h with
    one_le_step := h.one_le_floor.trans hhalved
    step_le_ceiling := (Nat.div_le_self _ _).trans h.step_le_ceiling
    floor_le_step := fun _ => hhalved }

/-- The clocks that arise from a clock by attempts that are accepted, with any step and error, and
attempts that are rejected and can be tried again. -/
inductive Reaches (c : Clock) : Clock → Prop
  | refl : Reaches c c
  | accept {c' : Clock} (taken : Nat) (error : Float) (h : Reaches c c') :
    Reaches c (c'.accept taken error)
  | reject {c' c'' : Clock} (h : Reaches c c') (hreject : c'.reject = .ok c'') : Reaches c c''

theorem Reaches.bounded (h : Reaches c c') (hc : c.Bounded) : c'.Bounded := by
  induction h with
  | refl => exact hc
  | accept taken error _ ih => exact ih.accept
  | reject _ hreject ih => exact ih.reject hreject

/-- The floor and the ceiling of a clock do not change, nor do its factors. -/
theorem Reaches.range_eq (h : Reaches c c') :
    c'.floor = c.floor ∧ c'.ceiling = c.ceiling ∧ c'.growthFactor = c.growthFactor := by
  induction h with
  | refl => exact ⟨rfl, rfl, rfl⟩
  | accept taken error _ ih => exact ih
  | reject _ hreject ih =>
    obtain ⟨-, rfl⟩ := reject_eq_ok_iff.1 hreject
    exact ih

/-- The nominal step never exceeds the ceiling and never vanishes, and it does not fall below the
floor unless the growth factor is NaN. -/
theorem step_within_bounds (hcheck : settings.check = .ok ())
    (h : Reaches (ofSettings settings) c) :
    c.floor = floorOf settings ∧ c.ceiling = ceilingOf settings ∧ 1 ≤ c.floor ∧ 1 ≤ c.step ∧
      c.step ≤ c.ceiling ∧ (settings.growthFactor.isNaN = false → c.floor ≤ c.step) := by
  have hbounded := h.bounded (bounded_ofSettings hcheck)
  obtain ⟨hfloor, hceiling, hgrowth⟩ := h.range_eq
  refine ⟨hfloor, hceiling, hbounded.one_le_floor, hbounded.one_le_step, hbounded.step_le_ceiling,
    fun hnan => hbounded.floor_le_step ?_⟩
  rw [hgrowth]
  exact hnan

/-- A step that shrinks after a large error and is halved after a failure. -/
theorem step_within_bounds_halved :
    ∃ c, ((ofSettings {}).accept 1000000 1.0).reject = .ok c ∧
      c.step = 400000 ∧ 10000 ≤ c.step ∧ c.step ≤ c.ceiling := by
  have hcheck : ({} : SimulationSettings).check = .ok () := by decide
  have hreject : ((ofSettings {}).accept 1000000 1.0).reject = .ok
      { (ofSettings {}).accept 1000000 1.0 with step := 400000, failed := 1 } := by decide
  have hreaches := (Reaches.refl (c := ofSettings {})).accept 1000000 1.0 |>.reject hreject
  obtain ⟨hfloor, -, -, -, hceiling, hge⟩ := step_within_bounds hcheck hreaches
  have hvalue : floorOf {} = 10000 := by decide
  have hnan : ({} : SimulationSettings).growthFactor.isNaN = false := by decide
  exact ⟨_, hreject, rfl, hvalue ▸ hfloor ▸ hge hnan, hceiling⟩

/-- With a growth factor that is NaN the step falls below the floor. -/
theorem step_below_floor :
    let settings : SimulationSettings := { growthFactor := 0.0 / 0.0 }
    settings.check = .ok () ∧
      ((ofSettings settings).accept 1000000 0.0).floor = 10000 ∧
      ((ofSettings settings).accept 1000000 0.0).step = 1 := by
  decide

end Clock

end PhysicsLab
