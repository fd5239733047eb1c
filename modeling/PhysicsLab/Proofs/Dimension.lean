import PhysicsLab.Proofs.Exponents

/-!
# The algebra of dimensions

Exponents are whole numbers of limited size.  Computed in the integers, products and quotients of
dimensions obey the laws of an abelian group; a law can only fail where an exponent on one of its
sides leaves its range.  The unknown dimension shows exactly where that happens, also in the middle
of a calculation, and never anywhere else.

## Main definitions

* `Combination.inverse` — the combination that takes a combination back
* `Combination.on` — what a combination does with exponents

## Main statements

* `Dimension.combine_eq_known_iff`, `Dimension.combine_eq_unknown_iff`
* `Dimension.combine_laws`
-/

namespace PhysicsLab

/-! ## §1 Combinations of integers -/

namespace Combination

/-- A product is taken back by a quotient, and a quotient by a product. -/
def inverse : Combination → Combination
  | product => quotient
  | quotient => product

/-- The exponent of a combination. -/
def on : Combination → Int → Int → Int
  | product, m, n => m + n
  | quotient, m, n => m - n

theorem inverse_on (c : Combination) (m n : Int) : c.inverse.on (c.on m n) n = m := by
  cases c with
  | product => exact Int.add_sub_cancel m n
  | quotient => exact Int.sub_add_cancel m n

end Combination

/-! ## §2 Checked and saturating exponents -/

/-- An integer that fits is not clamped. -/
theorem clampExponent_of_fits {n : Int} (h : fitsExponent n = true) :
    clampExponent n = Int32.ofInt n := by
  simp only [fitsExponent, Bool.and_eq_true, decide_eq_true_eq] at h
  rw [clampExponent, Int.min_eq_left h.2, Int.max_eq_right h.1]

namespace Exponents

/-- Where everything fits, nothing is clamped. -/
theorem build_of_build? {f : Fin 7 → Int} {d : Exponents} (h : build? f = some d) :
    build f = d := by
  obtain ⟨hfits, hget⟩ := build?_eq_some_iff.1 h
  refine ext_get fun i => ?_
  rw [hget i, ← get_ofFn (hfits i)]
  simp only [build, get, Fin.getElem_fin, Vector.getElem_ofFn, clampExponent_of_fits (hfits i)]

theorem build?_eq_none_iff {f : Fin 7 → Int} :
    build? f = none ↔ ∃ i, fitsExponent (f i) = false := by
  simp [build?]

end Exponents

/-! ## §3 Dimensions -/

namespace Dimension

variable {c : Combination} {a b e : Dimension} {d : Exponents}

theorem combine_known_eq (c : Combination) (d d' : Exponents) :
    combine c (known d) (known d') =
      ofExponents? (Exponents.build? fun i => c.on (d.get i) (d'.get i)) := by
  cases c <;> rfl

theorem ofExponents?_eq_known_iff {o : Option Exponents} :
    ofExponents? o = known d ↔ o = some d := by
  cases o with
  | none => exact ⟨(nomatch ·), (nomatch ·)⟩
  | some d' => exact ⟨fun h => congrArg some (known.inj h), fun h => congrArg ofExponents? h⟩

theorem ofExponents?_eq_unknown_iff {o : Option Exponents} :
    ofExponents? o = unknown ↔ o = none := by
  cases o with
  | none => exact ⟨fun _ => rfl, fun _ => rfl⟩
  | some d' => exact ⟨(nomatch ·), (nomatch ·)⟩

/-- The operands of a known combination are known. -/
theorem known_of_combine (h : a.combine c b = known d) : ∃ d₁ d₂, a = known d₁ ∧ b = known d₂ := by
  cases a with
  | unknown => cases h
  | known d₁ =>
    cases b with
    | unknown => cases h
    | known d₂ => exact ⟨d₁, d₂, rfl, rfl⟩

/-- A combination is known exactly if its operands are and every exponent fits. -/
theorem combine_eq_known_iff : a.combine c b = known d ↔ ∃ d₁ d₂, a = known d₁ ∧ b = known d₂ ∧
    (∀ i, fitsExponent (c.on (d₁.get i) (d₂.get i)) = true) ∧
      ∀ i, d.get i = c.on (d₁.get i) (d₂.get i) := by
  constructor
  · intro h
    obtain ⟨d₁, d₂, rfl, rfl⟩ := known_of_combine h
    rw [combine_known_eq, ofExponents?_eq_known_iff, Exponents.build?_eq_some_iff] at h
    exact ⟨d₁, d₂, rfl, rfl, h⟩
  · rintro ⟨d₁, d₂, rfl, rfl, h⟩
    rw [combine_known_eq, ofExponents?_eq_known_iff, Exponents.build?_eq_some_iff]
    exact h

/-- A combination is unknown exactly if an operand is or an exponent does not fit. -/
theorem combine_eq_unknown_iff : a.combine c b = unknown ↔ a = unknown ∨ b = unknown ∨
    ∃ d₁ d₂ i, a = known d₁ ∧ b = known d₂ ∧ fitsExponent (c.on (d₁.get i) (d₂.get i)) = false := by
  cases a with
  | unknown => exact ⟨fun _ => .inl rfl, fun _ => rfl⟩
  | known d₁ =>
    cases b with
    | unknown => exact ⟨fun _ => .inr (.inl rfl), fun _ => rfl⟩
    | known d₂ =>
      rw [combine_known_eq, ofExponents?_eq_unknown_iff, Exponents.build?_eq_none_iff]
      constructor
      · rintro ⟨i, hi⟩
        exact .inr (.inr ⟨d₁, d₂, i, rfl, rfl, hi⟩)
      · rintro (h | h | ⟨_, _, i, ⟨⟩, ⟨⟩, hi⟩)
        · cases h
        · cases h
        · exact ⟨i, hi⟩

theorem exists_known (h : a ≠ unknown) : ∃ d, a = known d := by
  cases a with
  | known d => exact ⟨d, rfl⟩
  | unknown => exact absurd rfl h

/-- What is combined can be taken back if it is known. -/
theorem combine_inverse_of_known (h : a.combine c b ≠ unknown) :
    (a.combine c b).combine c.inverse b = a := by
  obtain ⟨d, hd⟩ := exists_known h
  obtain ⟨d₁, d₂, rfl, rfl, -, hget⟩ := combine_eq_known_iff.1 hd
  have hback (i : Fin 7) : c.inverse.on (d.get i) (d₂.get i) = d₁.get i := by
    rw [hget i, Combination.inverse_on]
  rw [hd]
  refine combine_eq_known_iff.2 ⟨d, d₂, rfl, rfl, fun i => ?_, fun i => (hback i).symm⟩
  rw [hback i]
  exact fitsExponent_toInt _

/-- Taking back a combination fails exactly where the combination itself does. -/
theorem combine_inverse_eq_unknown_iff :
    (a.combine c b).combine c.inverse b = unknown ↔ a.combine c b = unknown := by
  constructor
  · intro h
    by_cases hknown : a.combine c b = unknown
    · exact hknown
    · -- What is taken back is the first operand, which is known if the combination is.
      rw [combine_inverse_of_known hknown] at h
      exact combine_eq_unknown_iff.2 (.inl h)
  · intro h
    rw [h]
    rfl

theorem combine_product_comm (a b : Dimension) : a.combine .product b = b.combine .product a := by
  cases a with
  | unknown => cases b <;> rfl
  | known d₁ =>
    cases b with
    | unknown => rfl
    | known d₂ =>
      rw [combine_known_eq, combine_known_eq]
      congr 2
      funext i
      exact Int.add_comm ..

/-- Known products of three factors do not depend on the grouping. -/
theorem combine_product_assoc {x y : Exponents}
    (hleft : (a.combine .product b).combine .product e = known x)
    (hright : a.combine .product (b.combine .product e) = known y) : x = y := by
  obtain ⟨ab, d₃, hab, rfl, -, hx⟩ := combine_eq_known_iff.1 hleft
  obtain ⟨d₁, d₂, rfl, rfl, -, hget⟩ := combine_eq_known_iff.1 hab
  obtain ⟨_, be, ⟨⟩, hbe, -, hy⟩ := combine_eq_known_iff.1 hright
  obtain ⟨_, _, ⟨⟩, ⟨⟩, -, hget'⟩ := combine_eq_known_iff.1 hbe
  refine Exponents.ext_get fun i => ?_
  rw [hx i, hy i, hget i, hget' i]
  exact Int.add_assoc ..

/-- The laws of products and quotients.  A combination that is taken back gives the first operand,
or is unknown, namely exactly if an operand is unknown or the combination has an exponent that does
not fit.  Known products of three factors do not depend on the grouping, and no product on the order
of its factors.  Where a checked operation succeeds, the saturating one has the same result. -/
theorem combine_laws :
    (∀ (c : Combination) (a b : Dimension),
      ((a.combine c b).combine c.inverse b = a ∨
        (a.combine c b).combine c.inverse b = unknown) ∧
      ((a.combine c b).combine c.inverse b = unknown ↔ a = unknown ∨ b = unknown ∨
        ∃ d₁ d₂ i, a = known d₁ ∧ b = known d₂ ∧
          fitsExponent (c.on (d₁.get i) (d₂.get i)) = false)) ∧
    (∀ (a b e : Dimension) (x y : Exponents),
      (a.combine .product b).combine .product e = known x →
      a.combine .product (b.combine .product e) = known y → x = y) ∧
    (∀ a b : Dimension, a.combine .product b = b.combine .product a) ∧
    ∀ d₁ d₂ d : Exponents, (d₁.mul? d₂ = some d → d₁.mul d₂ = d) ∧
      (d₁.div? d₂ = some d → d₁.div d₂ = d) ∧ ∀ n : Int, d₁.pow? n = some d → d₁.pow n = d := by
  refine ⟨fun c a b => ⟨?_, combine_inverse_eq_unknown_iff.trans combine_eq_unknown_iff⟩,
    fun a b e x y => combine_product_assoc, combine_product_comm,
    fun d₁ d₂ d => ⟨Exponents.build_of_build?, Exponents.build_of_build?,
      fun n => Exponents.build_of_build?⟩⟩
  by_cases h : a.combine c b = unknown
  · exact .inr (combine_inverse_eq_unknown_iff.2 h)
  · exact .inl (combine_inverse_of_known h)

/-- At the ends of the range.  Of a length to the largest power, a length and a wavenumber one
grouping of the product is unknown and the other one known; of three smaller ones both are known and
equal. -/
theorem combine_laws_at_ends :
    let longest : Exponents := .of 2147483647 0 0 0 0 0 0
    (combine .product (known longest) (known .length)).combine .quotient (known .length) =
      unknown ∧
    (combine .quotient (known longest) (known .length)).combine .product (known .length) =
      known longest ∧
    (combine .product (known longest) (known .length)).combine .product (known .wavenumber) =
      unknown ∧
    combine .product (known longest) (combine .product (known .length) (known .wavenumber)) =
      known longest ∧
    (∃ x y, (combine .product (known .velocity) (known .time)).combine .product (known .mass) =
        known x ∧
      combine .product (known .velocity) (combine .product (known .time) (known .mass)) = known y ∧
      x = y) ∧
    longest.div? .length = some (.of 2147483646 0 0 0 0 0 0) ∧
      longest.div .length = .of 2147483646 0 0 0 0 0 0 := by
  obtain ⟨htaken, hassoc, -, hsaturating⟩ := combine_laws
  have hleft : (combine .product (known .velocity) (known .time)).combine .product (known .mass) =
      known (.of 1 1 0 0 0 0 0) := by decide
  have hright : combine .product (known .velocity) (combine .product (known .time) (known .mass)) =
      known (.of 1 1 0 0 0 0 0) := by decide
  have hdiv : Exponents.div? (.of 2147483647 0 0 0 0 0 0) .length =
      some (.of 2147483646 0 0 0 0 0 0) := by decide
  refine ⟨?_, ?_, by decide, by decide, ⟨_, _, hleft, hright, hassoc _ _ _ _ _ hleft hright⟩, hdiv,
    (hsaturating _ _ _).2.1 hdiv⟩
  · exact (htaken .product _ _).2.2 (.inr (.inr ⟨_, _, 0, rfl, rfl, by decide⟩))
  · exact ((htaken .quotient _ _).1).resolve_right (by decide)

end Dimension

end PhysicsLab
