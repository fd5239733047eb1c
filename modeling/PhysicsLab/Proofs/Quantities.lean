import PhysicsLab.Proofs.Exponents
import PhysicsLab.Proofs.Units.Operands

/-!
# Quantities keep the dimension of their unit

A product or quotient of quantities gets its dimension from those of its operands, and its unit text
from their texts.  The two agree along a whole calculation, as long as the texts that are stated
close their brackets and the operators of divisors and second factors are noticed: then a joined
text is read as the trees of the texts, joined, and its exponents are those of the dimension.

One difference is left.  The exponents are checked in both places, but only a text has a factor, and
it denotes nothing if that leaves its range.

## Main definitions

* `Calculation` — products and quotients of stated quantities
* `Calculation.Readable`, `Calculation.InRange` — calculations whose texts are read as they are
  meant, and whose factors stay in range

## Main statements

* `dimensionOf_joinUnits` — the dimension of a joined text
* `Calculation.dimension_result`
-/

namespace PhysicsLab

open PhysicsLab.Units PhysicsLab.Quantity

/-! ## §1 Combined units -/

/-- The exponents of a combination. -/
def combinedExponents? : Combination → Exponents → Exponents → Option Exponents
  | .product => Exponents.mul?
  | .quotient => Exponents.div?

/-- The factor of a combination. -/
def combinedFactor : Combination → Float → Float → Float
  | .product, x, y => x * y
  | .quotient, x, y => x / y

/-- The unit of a combination. -/
def combinedUnit? (c : Combination) (a b : ScaledUnit) : Option ScaledUnit :=
  ScaledUnit.make? (combinedExponents? c a.exponents b.exponents)
    (combinedFactor c a.factor b.factor)

/-- The factor of a combination is a finite number other than zero. -/
def FactorFits (c : Combination) (a b : ScaledUnit) : Prop :=
  ((combinedFactor c a.factor b.factor).isFinite &&
    combinedFactor c a.factor b.factor != 0.0) = true

instance (c : Combination) (a b : ScaledUnit) : Decidable (FactorFits c a b) :=
  inferInstanceAs (Decidable (_ = true))

theorem eval?_combinedTree (c : Combination) (l r : UnitTree) :
    (combinedTree c l r).eval? = l.eval?.bind fun a => r.eval?.bind fun b =>
      combinedUnit? c a b := by
  cases c <;> rfl

theorem combine_known (c : Combination) (d e : Exponents) :
    Dimension.combine c (.known d) (.known e) = .ofExponents? (combinedExponents? c d e) := by
  cases c <;> rfl

theorem combinedUnit?_of_fits {c : Combination} {a b : ScaledUnit} (h : FactorFits c a b) :
    (combinedUnit? c a b).map ScaledUnit.exponents =
      combinedExponents? c a.exponents b.exponents := by
  have hmake : combinedUnit? c a b = (combinedExponents? c a.exponents b.exponents).map
      fun d => ⟨d, combinedFactor c a.factor b.factor⟩ := if_pos h
  rw [hmake]
  cases combinedExponents? c a.exponents b.exponents <;> rfl

theorem combinedUnit?_of_not_fits {c : Combination} {a b : ScaledUnit} (h : ¬ FactorFits c a b) :
    combinedUnit? c a b = none := if_neg h

/-! ### The unit 1 -/

theorem get_dimensionless (i : Fin 7) : Exponents.dimensionless.get i = 0 := by
  revert i
  decide

/-- Nothing is changed by a quantity without a dimension. -/
theorem combine_dimensionless (c : Combination) (d : Dimension) :
    d.combine c (.known .dimensionless) = d := by
  cases d with
  | unknown => rfl
  | known d =>
    have hsame : combinedExponents? c d .dimensionless = some d := by
      cases c with
      | product => exact Exponents.build?_of_get fun i => by rw [get_dimensionless, Int.add_zero]
      | quotient => exact Exponents.build?_of_get fun i => by rw [get_dimensionless, Int.sub_zero]
    rw [combine_known, hsame]
    rfl

theorem dimensionless_combine (d : Dimension) :
    Dimension.combine .product (.known .dimensionless) d = d := by
  cases d with
  | unknown => rfl
  | known d =>
    have hsame : combinedExponents? .product .dimensionless d = some d :=
      Exponents.build?_of_get fun i => by rw [get_dimensionless, Int.zero_add]
    rw [combine_known, hsame]
    rfl

theorem dimensionOf_empty : dimensionOf "" = .known .dimensionless := by decide

/-! ## §2 Joined unit texts -/

section Joined

variable {c : Combination} {left right : String}

theorem parse?_joinUnits (hleft : IsUnitText left) (hright : IsUnitText right)
    (hjoins : Joins c left right) (hoperand : IsOperand right) :
    parse? (joinUnits c left right) =
      (parse? left).bind fun a => (parse? right).bind fun b => combinedUnit? c a b := by
  unfold parse?
  rw [parseTree?_joinUnits hleft hright hjoins hoperand]
  cases UnitTree.parse? left with
  | none => rfl
  | some l =>
    cases UnitTree.parse? right with
    | none =>
      -- Whatever the first text denotes, the second one denotes nothing.
      show none = l.eval?.bind fun _ => none
      cases l.eval? <;> rfl
    | some r => exact eval?_combinedTree c l r

/-- If both texts denote units, the factor of a combination that is written with a sign fits. -/
def JoinFits (c : Combination) (left right : String) : Prop :=
  Joins c left right → ∀ a ∈ parse? left, ∀ b ∈ parse? right, FactorFits c a b

instance (c : Combination) (left right : String) : Decidable (JoinFits c left right) :=
  inferInstanceAs (Decidable (_ → ∀ a ∈ parse? left, ∀ b ∈ parse? right, FactorFits c a b))

/-- The dimension of a joined text is that of the combination, as long as the factor fits. -/
theorem dimensionOf_joinUnits (hleft : IsUnitText left) (hright : IsUnitText right)
    (hoperand : Joins c left right → IsOperand right) (hfits : JoinFits c left right) :
    dimensionOf (joinUnits c left right) = (dimensionOf left).combine c (dimensionOf right) := by
  by_cases hjoins : Joins c left right
  · have hfactor := hfits hjoins
    unfold dimensionOf
    rw [parse?_joinUnits hleft hright hjoins (hoperand hjoins)]
    cases ha : parse? left with
    | none => rfl
    | some a =>
      cases hb : parse? right with
      | none => rfl
      | some b =>
        rw [Option.bind_some, Option.bind_some, combinedUnit?_of_fits (hfactor a ha b hb)]
        exact (combine_known c a.exponents b.exponents).symm
  · rcases joinUnits_of_not_joins hjoins with ⟨rfl, heq⟩ | ⟨⟨rfl, rfl⟩, heq⟩
    · rw [heq, dimensionOf_empty, combine_dimensionless]
    · rw [heq, dimensionOf_empty, dimensionless_combine]

/-- A joined text denotes nothing if one of the texts does not, or if the factor does not fit. -/
theorem parse?_joinUnits_eq_none (hleft : IsUnitText left) (hright : IsUnitText right)
    (hoperand : Joins c left right → IsOperand right)
    (h : parse? left = none ∨ parse? right = none ∨ ¬ JoinFits c left right) :
    parse? (joinUnits c left right) = none := by
  have hempty : parse? "" ≠ none := by decide
  by_cases hjoins : Joins c left right
  · rw [parse?_joinUnits hleft hright hjoins (hoperand hjoins)]
    cases ha : parse? left with
    | none => rfl
    | some a =>
      cases hb : parse? right with
      | none => rfl
      | some b =>
        rw [ha, hb] at h
        -- Both texts denote units, so it is the factor.
        have hfactor : ¬ FactorFits c a b := by
          rcases h with h | h | h
          · cases h
          · cases h
          · intro hfits
            refine h fun _ a' ha' b' hb' => ?_
            rw [ha] at ha'
            rw [hb] at hb'
            cases ha'
            cases hb'
            exact hfits
        exact combinedUnit?_of_not_fits hfactor
  · have hfits : JoinFits c left right := fun h => absurd h hjoins
    rcases joinUnits_of_not_joins hjoins with ⟨rfl, heq⟩ | ⟨⟨rfl, rfl⟩, heq⟩
    · rw [heq]
      exact h.resolve_right fun hno => hno.elim hempty fun hno => hno hfits
    · rw [heq]
      exact (h.resolve_left hempty).resolve_right fun hno => hno hfits

end Joined

/-! ## §3 Calculations -/

/-- Stated quantities, and products and quotients of them. -/
inductive Calculation where
  | stated (value : Float) (unit : String)
  | combined (c : Combination) (left right : Calculation)

namespace Calculation

/-- The quantity that a calculation gives. -/
def result : Calculation → Quantity
  | stated value unit => .of value unit
  | combined c left right => left.result.combine c right.result

/-- Stated unit texts close their brackets and are empty or visible, and the operators of a text
that a sign is written in front of are noticed. -/
def Readable : Calculation → Prop
  | stated _ unit => IsUnitText unit
  | combined c left right => left.Readable ∧ right.Readable ∧
      (Joins c left.result.unit right.result.unit → IsOperand right.result.unit)

/-- The factors of all texts that are joined fit. -/
def InRange : Calculation → Prop
  | stated _ _ => True
  | combined c left right => left.InRange ∧ right.InRange ∧
      JoinFits c left.result.unit right.result.unit

instance decidableReadable : (e : Calculation) → Decidable e.Readable
  | stated _ unit => inferInstanceAs (Decidable (IsUnitText unit))
  | combined c left right =>
    have := left.decidableReadable
    have := right.decidableReadable
    inferInstanceAs (Decidable (left.Readable ∧ right.Readable ∧
      (Joins c left.result.unit right.result.unit → IsOperand right.result.unit)))

instance decidableInRange : (e : Calculation) → Decidable e.InRange
  | stated _ _ => isTrue trivial
  | combined c left right =>
    have := left.decidableInRange
    have := right.decidableInRange
    inferInstanceAs (Decidable (left.InRange ∧ right.InRange ∧
      JoinFits c left.result.unit right.result.unit))

theorem Readable.isUnitText {e : Calculation} (h : e.Readable) : IsUnitText e.result.unit := by
  induction e with
  | stated value unit => exact h
  | combined c left right ihl ihr =>
    obtain ⟨hleft, hright, -⟩ := h
    exact (ihl hleft).joinUnits (ihr hright) c

theorem dimension_of_inRange {e : Calculation} (h : e.Readable) (hrange : e.InRange) :
    e.result.dimension = dimensionOf e.result.unit := by
  induction e with
  | stated value unit => rfl
  | combined c left right ihl ihr =>
    obtain ⟨hleft, hright, hoperand⟩ := h
    obtain ⟨hrangel, hranger, hfits⟩ := hrange
    have hjoined := dimensionOf_joinUnits hleft.isUnitText hright.isUnitText hoperand hfits
    show left.result.dimension.combine c right.result.dimension = _
    rw [ihl hleft hrangel, ihr hright hranger, ← hjoined]
    rfl

/-- Once a factor has left its range, no text that is made from this one denotes a unit. -/
theorem parse?_of_not_inRange {e : Calculation} (h : e.Readable) (hrange : ¬ e.InRange) :
    parse? e.result.unit = none := by
  induction e with
  | stated value unit => exact absurd trivial hrange
  | combined c left right ihl ihr =>
    obtain ⟨hleft, hright, hoperand⟩ := h
    apply parse?_joinUnits_eq_none hleft.isUnitText hright.isUnitText hoperand
    by_cases hrangel : left.InRange
    · by_cases hranger : right.InRange
      · exact .inr (.inr fun hfits => hrange ⟨hrangel, hranger, hfits⟩)
      · exact .inr (.inl (ihr hright hranger))
    · exact .inl (ihl hleft hrangel)

/-- The dimension that a readable calculation gives is that of its unit text, if all factors stay in
range.  If one does not, the unit text denotes nothing. -/
theorem dimension_result {e : Calculation} (h : e.Readable) :
    (e.InRange → e.result.dimension = dimensionOf e.result.unit) ∧
      (¬ e.InRange → dimensionOf e.result.unit = .unknown) := by
  refine ⟨dimension_of_inRange h, fun hrange => ?_⟩
  rw [dimensionOf, parse?_of_not_inRange h hrange]
  rfl

/-- A quotient of two products, whose unit texts are spelled in different ways. -/
def energyPerAmount : Calculation :=
  .combined .quotient
    (.combined .product (.stated 2.0 "kg·m²") (.stated 3.0 "rad^2/s^2"))
    (.combined .product (.stated 1.5 "") (.stated 4.0 "mol K"))

/-- The quotient of the two products has a text in brackets, and the dimension of that text. -/
theorem dimension_energyPerAmount :
    energyPerAmount.result.unit = "(kg·m²*(rad^2/s^2))/(mol K)" ∧
      energyPerAmount.result.dimension.exponents?.map Exponents.toList =
        some [2, 1, -2, 0, -1, -1, 0] ∧
      energyPerAmount.result.dimension = dimensionOf "(kg·m²*(rad^2/s^2))/(mol K)" := by
  have hunit : energyPerAmount.result.unit = "(kg·m²*(rad^2/s^2))/(mol K)" := by decide
  have hreadable : energyPerAmount.Readable := by decide
  obtain ⟨hdimension, -⟩ := dimension_result hreadable
  refine ⟨hunit, by decide +kernel, ?_⟩
  rw [← hunit]
  exact hdimension (by decide +kernel)

/-- The dimension that a calculation gives is not that of its unit text. -/
def Diverges (e : Calculation) : Prop := e.result.dimension ≠ dimensionOf e.result.unit

instance (e : Calculation) : Decidable e.Diverges := inferInstanceAs (Decidable (_ ≠ _))

/-- None of the conditions can be left out.  The dimension is another one where a sign in the
divisor is not noticed.  One of the two is unknown where a text holds blanks only, where a bracket
is closed in another text, and where the factor becomes zero. -/
theorem dimension_ne :
    (combined .quotient (stated 1.0 "kg") (stated 1.0 "m·s")).Diverges ∧
      (combined .product (stated 1.0 "m") (stated 1.0 " ")).Diverges ∧
      (combined .product (stated 1.0 "(m") (stated 1.0 "s)")).Diverges ∧
      (combined .product (stated 1.0 "um^50") (stated 1.0 "um^50")).Diverges := by
  decide +kernel

end Calculation

end PhysicsLab
