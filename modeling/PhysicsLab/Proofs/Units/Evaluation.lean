import PhysicsLab.Proofs.Exponents
import PhysicsLab.Units.Expression

/-!
# The meaning of unit trees

Evaluation stops at the first operation that leaves the range.  Here the exponents of a tree are
computed in the integers and its factor without any check, and the checks are stated apart: a tree
evaluates exactly if its symbols are known and every operation in it stays in range, and its unit
then has the integer exponents and the unchecked factor.

## Main definitions

* `UnitTree.exponent`, `UnitTree.factor` — the meaning of a tree, computed without checks
* `UnitTree.InRange` — every operation in the tree stays in range

## Main statements

* `UnitTree.evaluates` — what a tree evaluates to
* `parse?_eq_some_iff` — what a text denotes
-/

namespace PhysicsLab.Units

/-! ## §1 The meaning without checks -/

namespace UnitTree

/-- The exponent of a base quantity: sums, differences and multiples of the exponents of symbols. -/
def exponent (i : Fin 7) : UnitTree → Int
  | one => 0
  | symbol name => ((symbol? name).map fun u => u.exponents.get i).getD 0
  | power base n => base.exponent i * n
  | product left right => left.exponent i + right.exponent i
  | quotient left right => left.exponent i - right.exponent i

/-- The factor that takes a value to its coherent SI unit. -/
def factor : UnitTree → Float
  | one => 1.0
  | symbol name => ((symbol? name).map fun u => u.scale.interval).getD 1.0
  | power base n => ScaledUnit.powerOf base.factor n
  | product left right => left.factor * right.factor
  | quotient left right => left.factor / right.factor

/-- Every exponent fits, and the factor is a finite number other than zero. -/
def Fits (t : UnitTree) : Prop :=
  (∀ i, fitsExponent (t.exponent i) = true) ∧ t.factor.isFinite = true ∧ (t.factor != 0.0) = true

/-- Every power, product and quotient in the tree fits. -/
def InRange : UnitTree → Prop
  | one => True
  | symbol _ => True
  | power base n => base.InRange ∧ (power base n).Fits
  | product left right => left.InRange ∧ right.InRange ∧ (product left right).Fits
  | quotient left right => left.InRange ∧ right.InRange ∧ (quotient left right).Fits

/-- Every symbol of the tree is that of a unit. -/
def IsKnown (t : UnitTree) : Prop := ∀ name ∈ t.names, isSymbol name = true

/-- A unit has the exponents and the factor of a tree. -/
structure Denotes (t : UnitTree) (u : ScaledUnit) : Prop where
  exponents_eq : ∀ i, u.exponents.get i = t.exponent i
  factor_eq : u.factor = t.factor

/-- A tree denotes one unit at most. -/
theorem Denotes.unique {t : UnitTree} {u v : ScaledUnit} (hu : t.Denotes u) (hv : t.Denotes v) :
    u = v := by
  obtain ⟨d, x⟩ := u
  obtain ⟨e, y⟩ := v
  have hexponents : d = e :=
    Exponents.ext_get fun i => (hu.exponents_eq i).trans (hv.exponents_eq i).symm
  have hfactor : x = y := hu.factor_eq.trans hv.factor_eq.symm
  rw [hexponents, hfactor]

/-- A tree that fits denotes a unit. -/
theorem Fits.exists_denotes {t : UnitTree} (h : t.Fits) : ∃ u, t.Denotes u :=
  ⟨⟨⟨Vector.ofFn fun i => Int32.ofInt (t.exponent i)⟩, t.factor⟩,
    ⟨fun i => Exponents.get_ofFn (h.1 i), rfl⟩⟩

/-! ## §2 Single operations -/

/-- A checked operation gives the unit that a tree denotes, exactly if the tree fits. -/
theorem make?_eq_some_iff {t : UnitTree} {f : Fin 7 → Int} {x : Float} {u : ScaledUnit}
    (hf : ∀ i, f i = t.exponent i) (hx : x = t.factor) :
    ScaledUnit.make? (Exponents.build? f) x = some u ↔ t.Fits ∧ t.Denotes u := by
  obtain rfl : f = t.exponent := funext hf
  subst hx
  unfold ScaledUnit.make? Fits
  constructor
  · intro h
    split at h
    · next hfactor =>
      obtain ⟨d, hd, rfl⟩ := Option.map_eq_some_iff.1 h
      obtain ⟨hfits, hget⟩ := Exponents.build?_eq_some_iff.1 hd
      exact ⟨⟨hfits, Bool.and_eq_true_iff.1 hfactor⟩, ⟨hget, rfl⟩⟩
    · cases h
  · rintro ⟨⟨hfits, hfactor⟩, hget, hu⟩
    have hbuild : Exponents.build? t.exponent = some u.exponents :=
      Exponents.build?_eq_some_iff.2 ⟨hfits, hget⟩
    rw [if_pos (Bool.and_eq_true_iff.2 hfactor), hbuild, ← hu]
    rfl

variable {l r : UnitTree} {a b : ScaledUnit} {u : ScaledUnit}

theorem pow?_eq_some_iff {n : Int} (ha : l.Denotes a) :
    a.pow? n = some u ↔ (power l n).Fits ∧ (power l n).Denotes u :=
  make?_eq_some_iff (fun i => by rw [ha.exponents_eq i, exponent])
    (by rw [ha.factor_eq, factor])

theorem mul?_eq_some_iff (ha : l.Denotes a) (hb : r.Denotes b) :
    a.mul? b = some u ↔ (product l r).Fits ∧ (product l r).Denotes u :=
  make?_eq_some_iff (fun i => by rw [ha.exponents_eq i, hb.exponents_eq i, exponent])
    (by rw [ha.factor_eq, hb.factor_eq, factor])

theorem div?_eq_some_iff (ha : l.Denotes a) (hb : r.Denotes b) :
    a.div? b = some u ↔ (quotient l r).Fits ∧ (quotient l r).Denotes u :=
  make?_eq_some_iff (fun i => by rw [ha.exponents_eq i, hb.exponents_eq i, exponent])
    (by rw [ha.factor_eq, hb.factor_eq, factor])

theorem ofSymbol?_denotes {name : String} (h : ScaledUnit.ofSymbol? name = some u) :
    (symbol name).Denotes u := by
  obtain ⟨s, hs, rfl⟩ := Option.map_eq_some_iff.1 h
  exact ⟨fun i => by simp [exponent, hs], by simp [factor, hs]⟩

theorem ofSymbol?_eq_some_iff {name : String} :
    ScaledUnit.ofSymbol? name = some u ↔ isSymbol name = true ∧ (symbol name).Denotes u := by
  constructor
  · intro h
    obtain ⟨s, hs, -⟩ := Option.map_eq_some_iff.1 h
    exact ⟨by rw [isSymbol, hs]; rfl, ofSymbol?_denotes h⟩
  · rintro ⟨hknown, hu⟩
    obtain ⟨s, hs⟩ := Option.isSome_iff_exists.1 hknown
    have hsome : ScaledUnit.ofSymbol? name = some ⟨s.exponents, s.scale.interval⟩ := by
      rw [ScaledUnit.ofSymbol?, hs]
      rfl
    rw [hsome, (ofSymbol?_denotes hsome).unique hu]

/-! ## §3 Whole trees -/

theorem isKnown_symbol {name : String} : (symbol name).IsKnown ↔ isSymbol name = true := by
  simp [IsKnown, names]

theorem isKnown_power {n : Int} : (power l n).IsKnown ↔ l.IsKnown := Iff.rfl

theorem isKnown_product : (product l r).IsKnown ↔ l.IsKnown ∧ r.IsKnown := by
  simp [IsKnown, names, or_imp, forall_and]

theorem isKnown_quotient : (quotient l r).IsKnown ↔ l.IsKnown ∧ r.IsKnown := by
  simp [IsKnown, names, or_imp, forall_and]

/-- A tree evaluates to the unit it denotes, exactly if it is known and stays in range. -/
def Evaluates (t : UnitTree) : Prop :=
  ∀ u, t.eval? = some u ↔ t.IsKnown ∧ t.InRange ∧ t.Denotes u

/-- A tree that is known and stays in range denotes a unit. -/
theorem exists_denotes {t : UnitTree} (hknown : t.IsKnown) (hrange : t.InRange) :
    ∃ u, t.Denotes u := by
  cases t with
  | one => exact ⟨.one, by decide, rfl⟩
  | symbol name =>
    obtain ⟨s, hs⟩ := Option.isSome_iff_exists.1 (isKnown_symbol.1 hknown)
    exact ⟨_, ofSymbol?_denotes (by rw [ScaledUnit.ofSymbol?, hs]; rfl)⟩
  | power base n => exact hrange.2.exists_denotes
  | product left right => exact hrange.2.2.exists_denotes
  | quotient left right => exact hrange.2.2.exists_denotes

/-- Two trees that evaluate, joined by an operation. -/
theorem bind_eval?_eq_some_iff {op : ScaledUnit → ScaledUnit → Option ScaledUnit} {t : UnitTree}
    (hl : l.Evaluates) (hr : r.Evaluates)
    (hop : ∀ {a b u}, l.Denotes a → r.Denotes b → (op a b = some u ↔ t.Fits ∧ t.Denotes u)) :
    (do op (← l.eval?) (← r.eval?)) = some u ↔
      (l.IsKnown ∧ r.IsKnown) ∧ (l.InRange ∧ r.InRange ∧ t.Fits) ∧ t.Denotes u := by
  constructor
  · intro h
    obtain ⟨a, ha, h⟩ := Option.bind_eq_some_iff.1 h
    obtain ⟨b, hb, h⟩ := Option.bind_eq_some_iff.1 h
    obtain ⟨hknownl, hrangel, hda⟩ := (hl a).1 ha
    obtain ⟨hknownr, hranger, hdb⟩ := (hr b).1 hb
    obtain ⟨hfits, hu⟩ := (hop hda hdb).1 h
    exact ⟨⟨hknownl, hknownr⟩, ⟨hrangel, hranger, hfits⟩, hu⟩
  · rintro ⟨⟨hknownl, hknownr⟩, ⟨hrangel, hranger, hfits⟩, hu⟩
    obtain ⟨a, hda⟩ := exists_denotes hknownl hrangel
    obtain ⟨b, hdb⟩ := exists_denotes hknownr hranger
    have ha : l.eval? = some a := (hl a).2 ⟨hknownl, hrangel, hda⟩
    have hb : r.eval? = some b := (hr b).2 ⟨hknownr, hranger, hdb⟩
    rw [ha, hb]
    exact (hop hda hdb).2 ⟨hfits, hu⟩

/-- Evaluation succeeds exactly on the trees whose symbols are known and whose operations stay in
range, and gives the unit that the tree denotes. -/
theorem evaluates (t : UnitTree) : t.Evaluates := by
  induction t with
  | one =>
    intro u
    have hone : one.Denotes .one := ⟨by decide, rfl⟩
    constructor
    · intro h
      cases h
      exact ⟨fun _ h => (nomatch h), trivial, hone⟩
    · rintro ⟨-, -, hu⟩
      exact congrArg some (hone.unique hu)
  | symbol name =>
    intro u
    rw [isKnown_symbol, eval?, ofSymbol?_eq_some_iff]
    simp [InRange]
  | power base n ih =>
    intro u
    rw [isKnown_power]
    constructor
    · intro h
      obtain ⟨a, ha, h⟩ := Option.bind_eq_some_iff.1 h
      obtain ⟨hknown, hrange, hda⟩ := (ih a).1 ha
      obtain ⟨hfits, hu⟩ := (pow?_eq_some_iff hda).1 h
      exact ⟨hknown, ⟨hrange, hfits⟩, hu⟩
    · rintro ⟨hknown, ⟨hrange, hfits⟩, hu⟩
      obtain ⟨a, hda⟩ := exists_denotes hknown hrange
      have ha : base.eval? = some a := (ih a).2 ⟨hknown, hrange, hda⟩
      rw [eval?, ha]
      exact (pow?_eq_some_iff hda).2 ⟨hfits, hu⟩
  | product left right ihl ihr =>
    intro u
    rw [isKnown_product]
    exact bind_eval?_eq_some_iff ihl ihr mul?_eq_some_iff
  | quotient left right ihl ihr =>
    intro u
    rw [isKnown_quotient]
    exact bind_eval?_eq_some_iff ihl ihr div?_eq_some_iff

end UnitTree

/-! ## §4 Units of texts -/

/-- A text denotes what its tree denotes. -/
theorem parse?_eq_some_iff {token : String} {u : ScaledUnit} :
    parse? token = some u ↔
      ∃ tree, UnitTree.parse? token = some tree ∧ tree.IsKnown ∧ tree.InRange ∧ tree.Denotes u := by
  rw [parse?, Option.bind_eq_bind, Option.bind_eq_some_iff]
  exact exists_congr fun tree => and_congr_right fun _ => tree.evaluates u

theorem dimensionOf_eq_unknown_iff {token : String} :
    dimensionOf token = .unknown ↔ parse? token = none := by
  rw [dimensionOf]
  cases parse? token with
  | none => simp [Dimension.ofExponents?]
  | some u => simp [Dimension.ofExponents?]

end PhysicsLab.Units
