import Mathlib
import PhysicsLab.Number.Traced
import PhysicsLab.Number.Binary

/-!
# The bits of a number

A double has a sign, eleven bits of exponent and fifty-two of mantissa.  `magnitude` and `signBit`
read them as this library does; the logical model of the operations unpacks them into a sign, a
mantissa and an exponent.  Both views are the same, and packing undoes either.

## Main definitions

* `Dyadic.unpacked`, `Dyadic.toFloat` — a magnitude with a sign, as the operations have it
* `Dyadic.Stored` — the form in which magnitudes are stored

## Main statements

* `unpack_eq` — what a number is unpacked to
* `magnitude_toFloat`, `toFloat_magnitude`
* `eq_of_magnitude`, `Traced.value_eq_of_bits` — what determines a number
-/

namespace PhysicsLab.Number

open Float.Model (Format UnpackedFloat)
open Float.Model.UnpackedFloat (Sign)

/-! ## §1 Unpacking -/

/-- The sign as the numbers have it. -/
def signOf (negative : Bool) : Sign := if negative then .negative else .positive

/-- A magnitude with a sign, unpacked. -/
def Dyadic.unpacked (negative : Bool) (d : Dyadic) : UnpackedFloat :=
  if h : d.mantissa = 0 then .zero (signOf negative)
  else .finite (signOf negative) d.mantissa d.exponent (Nat.pos_of_ne_zero h)

/-- The stored bits of the exponent. -/
def biasedExponent (x : Float) : Nat := x.toBits.toNat / Nat.pow 2 52 % 2048

/-- The stored bits of the mantissa. -/
def storedMantissa (x : Float) : Nat := x.toBits.toNat % Nat.pow 2 52

variable {b : UInt64}

theorem toNat_unpackExponent :
    (@UnpackedFloat.unpackExponent Format.binary64 b.toBitVec).toNat =
      b.toNat / Nat.pow 2 52 % 2048 := by
  simp [UnpackedFloat.unpackExponent, Nat.shiftRight_eq_div_pow]

theorem toNat_unpackMantissa :
    (@UnpackedFloat.unpackMantissa Format.binary64 b.toBitVec).toNat =
      b.toNat % Nat.pow 2 52 := by
  simp [UnpackedFloat.unpackMantissa]

theorem ofBitVec_unpackSign :
    Sign.ofBitVec (@UnpackedFloat.unpackSign Format.binary64 b.toBitVec) =
      signOf (Nat.pow 2 63 ≤ b.toNat) := by
  have hlt : b.toNat < 2 ^ 64 := b.toNat_lt
  have hbit : (@UnpackedFloat.unpackSign Format.binary64 b.toBitVec).toNat =
      b.toNat / 2 ^ 63 := by
    simp [UnpackedFloat.unpackSign, Nat.shiftRight_eq_div_pow]
    omega
  have hzero : @UnpackedFloat.unpackSign Format.binary64 b.toBitVec = 0#1 ↔
      ¬ Nat.pow 2 63 ≤ b.toNat := by
    rw [← BitVec.toNat_inj, hbit]
    show _ = 0 ↔ ¬ 2 ^ 63 ≤ b.toNat
    omega
  unfold Sign.ofBitVec signOf
  by_cases h : Nat.pow 2 63 ≤ b.toNat
  · rw [if_neg (fun h0 => hzero.1 h0 h), if_pos (decide_eq_true h)]
  · rw [if_pos (hzero.2 h), if_neg (by simpa using h)]

theorem magnitude_eq (x : Float) :
    magnitude x =
      if biasedExponent x = 0 then ⟨storedMantissa x, -1074⟩
      else ⟨storedMantissa x + Nat.pow 2 52, (biasedExponent x : Int) - 1075⟩ := rfl

theorem finite_congr {s : Sign} {m m' : Nat} {e e' : Int} {hm : 0 < m} {hm' : 0 < m'}
    (hmantissa : m = m') (hexponent : e = e') :
    UnpackedFloat.finite s m e hm = .finite s m' e' hm' := by
  subst hmantissa hexponent
  rfl

/-- The operations unpack a finite number to its magnitude and its sign. -/
theorem unpack_eq (x : Float) :
    x.toModel.unpack =
      if biasedExponent x = 2047 then
        if storedMantissa x = 0 then .infinity (signOf (signBit x)) else .notANumber
      else (magnitude x).unpacked (signBit x) := by
  obtain ⟨⟨b, hvalid⟩⟩ := x
  set x : Float := ⟨⟨b, hvalid⟩⟩ with hx
  have hexponent : (@UnpackedFloat.unpackExponent Format.binary64 b.toBitVec).toNat =
      biasedExponent x := toNat_unpackExponent
  have hmantissa : (@UnpackedFloat.unpackMantissa Format.binary64 b.toBitVec).toNat =
      storedMantissa x := toNat_unpackMantissa
  have hsign : Sign.ofBitVec (@UnpackedFloat.unpackSign Format.binary64 b.toBitVec) =
      signOf (signBit x) := ofBitVec_unpackSign
  have hones : @UnpackedFloat.unpackExponent Format.binary64 b.toBitVec = -1#11 ↔
      biasedExponent x = 2047 := by
    rw [← BitVec.toNat_inj, hexponent]
    rfl
  have hzeros : @UnpackedFloat.unpackExponent Format.binary64 b.toBitVec = 0#11 ↔
      biasedExponent x = 0 := by
    rw [← BitVec.toNat_inj, hexponent]
    rfl
  have hempty : @UnpackedFloat.unpackMantissa Format.binary64 b.toBitVec = 0#52 ↔
      storedMantissa x = 0 := by
    rw [← BitVec.toNat_inj, hmantissa]
    rfl
  show UnpackedFloat.unpack Format.binary64 b.toBitVec = _
  unfold UnpackedFloat.unpack
  dsimp only
  rw [hsign, magnitude_eq]
  unfold Dyadic.unpacked
  by_cases h1 : biasedExponent x = 2047
  · simp only [if_pos h1, if_pos (hones.2 h1), hempty]
  · rw [if_neg h1, if_neg (fun h => h1 (hones.1 h))]
    by_cases h2 : biasedExponent x = 0
    · simp only [if_pos h2, if_pos (hzeros.2 h2), hempty]
      split
      · rfl
      · apply finite_congr hmantissa
        rw [hexponent, h2]
        rfl
    · simp only [if_neg h2, if_neg (fun h => h2 (hzeros.1 h))]
      have hpos : ¬ storedMantissa x + Nat.pow 2 52 = 0 := by
        have := Nat.two_pow_pos 52
        show ¬ _ + 2 ^ 52 = 0
        omega
      rw [dif_neg hpos]
      apply finite_congr
      · rw [BitVec.toNat_append, hmantissa]
        have hlt : storedMantissa x < 2 ^ 52 := Nat.mod_lt _ (Nat.two_pow_pos 52)
        rw [← Nat.shiftLeft_add_eq_or_of_lt hlt]
        exact Nat.add_comm _ _
      · rw [hexponent]
        rfl

/-! ## §2 Packing -/

/-- The number with a magnitude and a sign. -/
def Dyadic.toFloat (negative : Bool) (d : Dyadic) : Float :=
  ⟨Float.Model.pack (d.unpacked negative)⟩

/-- The form in which magnitudes are stored: as many digits as there are places, unless the
exponent is the smallest one. -/
structure Dyadic.Stored (d : Dyadic) : Prop where
  mantissa_lt : d.mantissa < 2 ^ 53
  le_exponent : -1074 ≤ d.exponent
  full : 2 ^ 52 ≤ d.mantissa ∨ d.exponent = -1074

theorem isFinite_iff {x : Float} : x.isFinite = true ↔ biasedExponent x ≠ 2047 := by
  show x.toModel.unpack.isFinite = true ↔ _
  rw [unpack_eq]
  by_cases h : biasedExponent x = 2047
  · rw [if_pos h]
    split <;> simp [UnpackedFloat.isFinite, h]
  · rw [if_neg h]
    unfold Dyadic.unpacked
    split <;> simp [UnpackedFloat.isFinite, h]

theorem biasedExponent_lt {x : Float} : biasedExponent x < 2048 := Nat.mod_lt _ (by decide)

theorem storedMantissa_lt {x : Float} : storedMantissa x < 2 ^ 52 :=
  Nat.mod_lt _ (Nat.two_pow_pos 52)

theorem magnitude_stored {x : Float} : (magnitude x).Stored := by
  have hlt : storedMantissa x < 2 ^ 52 := storedMantissa_lt
  rw [magnitude_eq]
  split
  · exact ⟨by show storedMantissa x < _; omega, by simp, .inr rfl⟩
  · next h =>
    refine ⟨?_, ?_, .inl ?_⟩
    · show storedMantissa x + 2 ^ 52 < _
      omega
    · show (-1074 : Int) ≤ biasedExponent x - 1075
      omega
    · show _ ≤ storedMantissa x + 2 ^ 52
      omega

theorem exponent_le_of_isFinite {x : Float} (h : x.isFinite = true) :
    (magnitude x).exponent ≤ 971 := by
  have hne := isFinite_iff.1 h
  have hlt := biasedExponent_lt (x := x)
  rw [magnitude_eq]
  split
  · show (-1074 : Int) ≤ 971
    decide
  · show (biasedExponent x : Int) - 1075 ≤ 971
    omega

theorem toNat_packComponents {s : Sign} {e : BitVec 11} {m : BitVec 52} :
    (UnpackedFloat.packComponents Format.binary64 s e m).toNat =
      s.toBitVec.toNat * 2 ^ 63 + e.toNat * 2 ^ 52 + m.toNat := by
  unfold UnpackedFloat.packComponents
  rw [BitVec.toNat_append, BitVec.toNat_append, ← Nat.shiftLeft_add_eq_or_of_lt e.isLt,
    ← Nat.shiftLeft_add_eq_or_of_lt m.isLt, Nat.shiftLeft_eq, Nat.shiftLeft_eq]
  show (_ * 2 ^ 11 + _) * 2 ^ 52 + _ = _
  ring

variable {negative : Bool} {d : Dyadic}

/-- The bits of a magnitude with a sign. -/
theorem toBits_toFloat (hd : d.Stored) (hle : d.exponent ≤ 971) :
    (d.toFloat negative).toBits.toNat =
      (if negative then 1 else 0) * 2 ^ 63 +
        (if 2 ^ 52 ≤ d.mantissa then (d.exponent + 1075).toNat * 2 ^ 52 + (d.mantissa - 2 ^ 52)
          else d.mantissa) := by
  have hsign : (signOf negative).toBitVec.toNat = if negative then 1 else 0 := by
    cases negative <;> rfl
  show (UnpackedFloat.pack Format.binary64 (d.unpacked negative)).toNat = _
  obtain ⟨hlt, hmin, hfull⟩ := hd
  unfold Dyadic.unpacked
  split
  · next hzero =>
    show (UnpackedFloat.packComponents Format.binary64 _ _ _).toNat = _
    rw [toNat_packComponents, hsign, hzero]
    simp
  · next hpos =>
    have hbiased : (d.exponent + (Format.exponentBias Format.binary64 : Int) +
        (Format.mantissaBitsWithoutImplicit Format.binary64 : Int)).toNat =
          (d.exponent + 1075).toNat := by
      show (d.exponent + 1023 + 52).toNat = _
      omega
    have hsmall : ¬ 2 ^ 11 ≤ (d.exponent + 1075).toNat + 1 := by omega
    have hlog : d.mantissa.log2 + 1 = Format.mantissaBits Format.binary64 ↔
        2 ^ 52 ≤ d.mantissa := by
      have hbelow := Nat.log2_lt hpos (k := 53)
      have hshort := Nat.log2_lt hpos (k := 52)
      show d.mantissa.log2 + 1 = 53 ↔ _
      omega
    simp only [UnpackedFloat.pack, hbiased]
    rw [if_neg hsmall]
    by_cases hnormal : 2 ^ 52 ≤ d.mantissa
    · rw [if_pos (hlog.2 hnormal), if_pos hnormal, toNat_packComponents, hsign, BitVec.toNat_ofNat,
        BitVec.toNat_ofNat, Nat.mod_eq_of_lt (by omega : (d.exponent + 1075).toNat < 2 ^ 11)]
      omega
    · have hmantissa : (BitVec.ofNat 52 d.mantissa).toNat = d.mantissa :=
        Nat.mod_eq_of_lt (by omega)
      rw [if_neg (fun h => hnormal (hlog.1 h)), if_neg hnormal, toNat_packComponents, hsign,
        hmantissa]
      show _ + 0 * _ + _ = _
      omega

theorem biasedExponent_toFloat (hd : d.Stored) (hle : d.exponent ≤ 971) :
    biasedExponent (d.toFloat negative) =
      if 2 ^ 52 ≤ d.mantissa then (d.exponent + 1075).toNat else 0 := by
  have hbits := @toBits_toFloat negative d hd hle
  obtain ⟨hlt, hmin, hfull⟩ := hd
  show _ / 2 ^ 52 % 2048 = _
  rw [hbits]
  split <;> split <;> omega

theorem isFinite_toFloat (hd : d.Stored) (hle : d.exponent ≤ 971) :
    (d.toFloat negative).isFinite = true := by
  rw [isFinite_iff, biasedExponent_toFloat hd hle]
  have := hd.le_exponent
  split <;> omega

theorem magnitude_toFloat (hd : d.Stored) (hle : d.exponent ≤ 971) :
    magnitude (d.toFloat negative) = d := by
  have hbits := @toBits_toFloat negative d hd hle
  have hstored : storedMantissa (d.toFloat negative) =
      if 2 ^ 52 ≤ d.mantissa then d.mantissa - 2 ^ 52 else d.mantissa := by
    have := hd.mantissa_lt
    show _ % 2 ^ 52 = _
    rw [hbits]
    split <;> split <;> omega
  rw [magnitude_eq, biasedExponent_toFloat hd hle, hstored]
  obtain ⟨m, e⟩ := d
  obtain ⟨hlt, hmin, hfull⟩ := hd
  dsimp only at hlt hmin hfull hle ⊢
  split
  · have : ¬ (e + 1075).toNat = 0 := by omega
    rw [if_neg this, Dyadic.mk.injEq]
    exact ⟨Nat.sub_add_cancel ‹_›, by omega⟩
  · rw [if_pos rfl, Dyadic.mk.injEq]
    exact ⟨rfl, by omega⟩

theorem signBit_toFloat (hd : d.Stored) (hle : d.exponent ≤ 971) :
    signBit (d.toFloat negative) = negative := by
  have hbits := @toBits_toFloat negative d hd hle
  obtain ⟨hlt, hmin, hfull⟩ := hd
  unfold signBit
  rw [hbits]
  show decide (2 ^ 63 ≤ _) = _
  cases negative
  · apply decide_eq_false
    rw [if_neg Bool.false_ne_true]
    split <;> omega
  · apply decide_eq_true
    simp

/-! ## §3 What determines a number -/

theorem eq_of_toBits {x y : Float} (h : x.toBits.toNat = y.toBits.toNat) : x = y := by
  obtain ⟨⟨b, hb⟩⟩ := x
  obtain ⟨⟨c, hc⟩⟩ := y
  obtain rfl : b = c := UInt64.toNat_inj.1 h
  rfl

/-- The bits of a number are its sign and its stored parts. -/
theorem toBits_eq (x : Float) :
    x.toBits.toNat =
      (if signBit x then 1 else 0) * 2 ^ 63 + biasedExponent x * 2 ^ 52 + storedMantissa x := by
  have hlt : x.toBits.toNat < 2 ^ 64 := x.toBits.toNat_lt
  unfold biasedExponent storedMantissa
  show _ = _ + _ / 2 ^ 52 % 2048 * 2 ^ 52 + _ % 2 ^ 52
  split
  · next h =>
    have hle : 2 ^ 63 ≤ x.toBits.toNat := of_decide_eq_true h
    omega
  · next h =>
    have hle : ¬ 2 ^ 63 ≤ x.toBits.toNat := fun h' => h (decide_eq_true h')
    omega

/-- A number is known from its sign and its magnitude. -/
theorem eq_of_magnitude {x y : Float} (hsign : signBit x = signBit y)
    (hmagnitude : magnitude x = magnitude y) : x = y := by
  have hx := storedMantissa_lt (x := x)
  have hy := storedMantissa_lt (x := y)
  rw [magnitude_eq, magnitude_eq] at hmagnitude
  apply eq_of_toBits
  rw [toBits_eq, toBits_eq, hsign]
  split at hmagnitude <;> split at hmagnitude <;> rw [Dyadic.mk.injEq] at hmagnitude
  · omega
  · obtain ⟨hstored, -⟩ := hmagnitude
    have : storedMantissa x = storedMantissa y + 2 ^ 52 := hstored
    omega
  · obtain ⟨hstored, -⟩ := hmagnitude
    have : storedMantissa x + 2 ^ 52 = storedMantissa y := hstored
    omega
  · omega

/-- A finite number is its magnitude with its sign. -/
theorem toFloat_magnitude {x : Float} (h : x.isFinite = true) :
    (magnitude x).toFloat (signBit x) = x :=
  eq_of_magnitude (signBit_toFloat magnitude_stored (exponent_le_of_isFinite h))
    (magnitude_toFloat magnitude_stored (exponent_le_of_isFinite h))

/-! ## §4 Not a number -/

/-- There is one pattern of bits for what is not a number. -/
theorem toBits_of_isNaN {x : Float} (h : x.isNaN = true) : x.toBits.toNat = Traced.nanBits := by
  obtain ⟨⟨b, hvalid⟩⟩ := x
  have hnan : (UnpackedFloat.unpack Format.binary64 b.toBitVec).isNaN = true := h
  unfold UnpackedFloat.unpack at hnan
  dsimp only at hnan
  split at hnan
  · next hexponent =>
    split at hnan
    · cases hnan
    · next hmantissa =>
      have hbits : b.toBitVec = UnpackedFloat.packedNaN Format.binary64 :=
        hvalid.eq_packedNaN hexponent hmantissa
      show b.toBitVec.toNat = Traced.nanBits
      rw [hbits]
      decide
  · split at hnan
    · split at hnan <;> cases hnan
    · cases hnan

/-- No number has the bits of NaN with a sign. -/
theorem toBits_ne_signedNaN {x : Float} : x.toBits.toNat ≠ Traced.nanBits + Nat.pow 2 63 := by
  obtain ⟨⟨b, hvalid⟩⟩ := x
  intro h
  obtain rfl : b = UInt64.ofNat (Traced.nanBits + Nat.pow 2 63) := UInt64.toNat_inj.1 h
  have hunsigned := hvalid.eq_packedNaN (by decide) (by decide)
  revert hunsigned
  decide

namespace Traced

theorem bits_lt {t : Traced} : t.bits < 256 ^ 8 := by
  have hword : t.value.toBits.toNat < 256 ^ 8 := t.value.toBits.toNat_lt
  unfold Traced.bits
  split
  · split <;> decide
  · exact hword

/-- The bits of a number show its value; its origin shows only in NaN. -/
theorem value_eq_of_bits {t u : Traced} (h : t.bits = u.bits) : t.value = u.value := by
  -- A number that is not NaN does not share its bits with NaN of either sign.
  have hnan (t u : Traced) (ht : t.value.isNaN = true) (hu : ¬ u.value.isNaN = true)
      (h : t.bits = u.bits) : False := by
    rw [Traced.bits, if_pos ht, Traced.bits, if_neg hu] at h
    split at h
    · exact toBits_ne_signedNaN h.symm
    · have hvalue : t.value = u.value := eq_of_toBits ((toBits_of_isNaN ht).trans h)
      exact hu (hvalue ▸ ht)
  by_cases ht : t.value.isNaN = true <;> by_cases hu : u.value.isNaN = true
  · exact eq_of_toBits ((toBits_of_isNaN ht).trans (toBits_of_isNaN hu).symm)
  · exact (hnan t u ht hu h).elim
  · exact (hnan u t hu ht h.symm).elim
  · rw [Traced.bits, if_neg ht, Traced.bits, if_neg hu] at h
    exact eq_of_toBits h

theorem map_value_eq_of_bits {ts us : List Traced} (h : ts.map Traced.bits = us.map Traced.bits) :
    ts.map Traced.value = us.map Traced.value := by
  induction ts generalizing us with
  | nil =>
    obtain rfl : us = [] := List.map_eq_nil_iff.1 h.symm
    rfl
  | cons t ts ih =>
    cases us with
    | nil => cases h
    | cons u us =>
      obtain ⟨hbits, hrest⟩ := List.cons_eq_cons.1 h
      exact List.cons_eq_cons.2 ⟨value_eq_of_bits hbits, ih hrest⟩

end Traced

end PhysicsLab.Number
