import PhysicsLab.Convention
import PhysicsLab.Proofs.Json.Numeral
import PhysicsLab.Proofs.Units.Overlong

/-!
# Reading the texts of dimensions

The text of a dimension is a product of powers of base units.  It is an expression of the grammar,
with the factors joined from the left, and the exponents of the factors up to one of them are those
of the dimension or zero.  So no product leaves the range, and the text denotes the dimension.

The smallest exponent is the exception: it is written as a hyphen and a number beyond the limit of
powers, which spoils the text.

## Main definitions

* `occurring` — the base quantities that a dimension has factors for
* `factorsTree` — the tree of a product of powers of base units
* `Builds` — a tree has the exponents of a dimension for some base quantities, and no others

## Main statements

* `derives_text` — texts of dimensions are expressions
* `parse?_text` — and denote the dimension, with the factor 1
* `dimensionOf_text`
-/

namespace PhysicsLab.Units

open PhysicsLab.Text PhysicsLab.Number PhysicsLab.Exponents

/-! ## §1 Factors -/

/-- The symbol of the base unit of a base quantity. -/
def baseUnit (i : Fin 7) : String := baseUnits.get i

/-- The base quantities with an exponent other than zero. -/
def occurring (d : Exponents) : List (Fin 7) := (List.finRange 7).filter fun i => d.get i != 0

/-- The power of a base unit in the text of a dimension. -/
def factorOf (d : Exponents) (i : Fin 7) : String := factorText (baseUnit i) (d.get i)

theorem mem_occurring {d : Exponents} {i : Fin 7} : i ∈ occurring d ↔ d.get i ≠ 0 := by
  simp [occurring]

theorem toList_eq_map_get (d : Exponents) : d.toList = (List.finRange 7).map d.get := by
  refine List.ext_getElem (by simp [Exponents.toList]) fun n hn hn' => ?_
  simp [Exponents.toList, Exponents.get]

theorem factorTexts_eq (d : Exponents) : d.factorTexts = (occurring d).map (factorOf d) := by
  have hzip : baseUnits.zip d.toList = (List.finRange 7).map fun i => (baseUnit i, d.get i) := by
    have hunits : baseUnits = (List.finRange 7).map baseUnit := by decide
    rw [hunits, toList_eq_map_get, List.zip_map']
  rw [factorTexts, hzip, List.filterMap_map, occurring, ← List.filterMap_eq_map,
    List.filterMap_filter]
  refine List.filterMap_congr fun i _ => ?_
  by_cases hi : d.get i = 0 <;> simp [hi, factorOf]

theorem isDimensionless_iff {d : Exponents} : d.isDimensionless = true ↔ occurring d = [] := by
  simp [isDimensionless, toList_eq_map_get, occurring]

theorem toList_intercalate (sign first : String) (others : List String) :
    (String.intercalate sign (first :: others)).toList =
      first.toList ++ others.flatMap fun text => sign.toList ++ text.toList := by
  induction others generalizing first with
  | nil => simp
  | cons text others ih =>
    rw [String.intercalate_cons_cons, String.toList_append, String.toList_append, ih,
      List.flatMap_cons, List.append_assoc, List.append_assoc]

/-! ## §2 Derivations -/

theorem signedNumber_writeInt (n : Int) : SignedNumber (writeInt n).toList n := by
  have hdigits : IsNumber (digitChars n.natAbs) :=
    ⟨Json.digitChars_ne_nil, Json.isDigit_of_mem_digitChars⟩
  have hvalue := Json.digitsValue_digitChars n.natAbs
  rw [Json.toList_writeInt]
  split
  · next hneg =>
    have h : SignedNumber ('-' :: digitChars n.natAbs) _ := .minus (.inl rfl) hdigits
    rwa [hvalue, ← Int.eq_neg_natAbs_of_nonpos hneg.le] at h
  · next hneg =>
    have h := SignedNumber.plain hdigits
    rwa [hvalue, Int.natAbs_of_nonneg (not_lt.1 hneg)] at h

theorem isName_baseUnit (i : Fin 7) : IsName (baseUnit i).toList := by
  have hall : ∀ i, (baseUnit i).toList ≠ [] ∧ ((baseUnit i).toList.all isSymbolChar) = true := by
    decide
  exact ⟨(hall i).1, List.all_eq_true.1 (hall i).2⟩

/-- The tree of a power of a base unit. -/
def factorTree (d : Exponents) (i : Fin 7) : UnitTree :=
  if d.get i = 1 then .symbol (baseUnit i) else .power (.symbol (baseUnit i)) (d.get i)

/-- The tree of a product of powers of base units, behind a first factor. -/
def factorsTree (d : Exponents) (left : UnitTree) (others : List (Fin 7)) : UnitTree :=
  others.foldl (fun t i => .product t (factorTree d i)) left

theorem derives_factor (d : Exponents) (i : Fin 7) :
    Derives .term (factorOf d i).toList (factorTree d i) := by
  have hname := isName_baseUnit i
  unfold factorOf factorText factorTree
  split
  · have h := Derives.symbol hname .plain
    rwa [List.append_nil, String.ofList_toList] at h
  · have h := Derives.symbol hname (.caret (signedNumber_writeInt (d.get i)))
    rw [String.ofList_toList] at h
    simpa using h

theorem derives_factors (d : Exponents) (left : UnitTree) (others : List (Fin 7)) :
    Derives (.factors left) (others.flatMap fun i => "·".toList ++ (factorOf d i).toList)
      (factorsTree d left others) := by
  have hsign : TimesSign ([] ++ '·' :: []) :=
    .sign (fun c hc => nomatch hc) rfl fun c hc => nomatch hc
  induction others generalizing left with
  | nil => exact .done
  | cons i others ih =>
    rw [List.flatMap_cons, List.append_assoc]
    exact .product hsign (derives_factor d i) (ih _)

/-- The text of a dimension with a factor is its first factor, and the others behind signs. -/
theorem toList_text {d : Exponents} {i : Fin 7} {others : List (Fin 7)}
    (h : occurring d = i :: others) : d.text.toList =
      (factorOf d i).toList ++ others.flatMap fun j => "·".toList ++ (factorOf d j).toList := by
  have hne : ¬ d.isDimensionless = true := fun hd => by
    rw [isDimensionless_iff.1 hd] at h
    cases h
  rw [Exponents.text, if_neg hne, factorTexts_eq, h, List.map_cons, toList_intercalate,
    List.flatMap_map]

theorem derives_text {d : Exponents} {i : Fin 7} {others : List (Fin 7)}
    (h : occurring d = i :: others) :
    Derives .expression d.text.toList (factorsTree d (factorTree d i) others) := by
  have hblank : AllBlank [] := fun c hc => nomatch hc
  have hderives :=
    Derives.expression hblank (derives_factor d i) (derives_factors d _ others) hblank
  rw [List.nil_append, List.append_nil, ← toList_text h] at hderives
  exact hderives

/-! ## §3 Characters -/

/-- Neither a blank nor a superscript. -/
def IsPlain (c : Char) : Prop := isBlank c = false ∧ superscript? c = none

theorem spellSuperscripts_of_plain {cs : List Char} (h : ∀ c ∈ cs, IsPlain c) :
    spellSuperscripts false cs = cs := by
  induction cs with
  | nil => rfl
  | cons c rest ih =>
    obtain ⟨hc, hrest⟩ := List.forall_mem_cons.1 h
    rw [spellSuperscripts, hc.2]
    exact congrArg (c :: ·) (ih hrest)

theorem spelled_of_plain {token : String} (h : ∀ c ∈ token.toList, IsPlain c) :
    spelled token = token.toList := by
  rw [spelled, trimChars_eq_self fun c hc => (h c hc).1, spellSuperscripts_of_plain h]

theorem isPlain_of_isDigit {c : Char} (h : c.isDigit = true) : IsPlain c := by
  have hall : ∀ c ∈ "0123456789".toList, isBlank c = false ∧ superscript? c = none :=
    List.all_iff_forall_prop.1 (by decide)
  exact hall c (mem_digits_of_isDigit h)

theorem isPlain_factorOf (d : Exponents) (i : Fin 7) : ∀ c ∈ (factorOf d i).toList, IsPlain c := by
  have hall : ∀ i, (baseUnit i).toList.all (fun c => !isBlank c && superscript? c == none) = true :=
    by decide
  have hunits : ∀ i, ∀ c ∈ (baseUnit i).toList, IsPlain c := fun i c hc => by
    simpa [IsPlain] using List.all_eq_true.1 (hall i) c hc
  have hsigns : ∀ c ∈ ['^', '-'], isBlank c = false ∧ superscript? c = none :=
    List.all_iff_forall_prop.1 (by decide)
  unfold factorOf factorText
  split
  · exact hunits i
  · intro c hc
    simp only [String.toList_append, Json.toList_writeInt, List.mem_append] at hc
    rcases hc with (hc | hc) | hc
    · exact hunits i c hc
    · exact hsigns c (List.mem_append_left ['-'] hc)
    · split at hc
      · rcases List.mem_cons.1 hc with rfl | hc
        · exact hsigns '-' (by decide)
        · exact isPlain_of_isDigit (Json.isDigit_of_mem_digitChars c hc)
      · exact isPlain_of_isDigit (Json.isDigit_of_mem_digitChars c hc)

/-- Every exponent but the smallest one is within the limit of powers. -/
theorem natAbs_get_le {d : Exponents} {i : Fin 7} (h : d.get i ≠ -2147483648) :
    (d.get i).natAbs ≤ powerLimit := by
  have hfits : fitsExponent (d.get i) = true := fitsExponent_toInt _
  simp only [fitsExponent, Bool.and_eq_true, decide_eq_true_eq] at hfits
  unfold powerLimit
  omega

theorem powersFit_factorOf {d : Exponents} {i : Fin 7} (h : d.get i ≠ -2147483648) :
    PowersFit (factorOf d i).toList := by
  have hname := (isName_baseUnit i).not_digit
  unfold factorOf factorText
  split
  · have hunit : PowersFit ((baseUnit i).toList ++ []) := (powersFit_append hname).2 powersFit_nil
    rwa [List.append_nil] at hunit
  · have hpower := (signedNumber_writeInt (d.get i)).powersFit (natAbs_get_le h)
    have hcaret : PowersFit ('^' :: (writeInt (d.get i)).toList) :=
      (powersFit_cons (by decide)).2 hpower
    have htext : (baseUnit i ++ "^" ++ writeInt (d.get i)).toList =
        (baseUnit i).toList ++ '^' :: (writeInt (d.get i)).toList := by simp
    rw [htext]
    exact (powersFit_append hname).2 hcaret

section Text

variable {d : Exponents} {i : Fin 7} {others : List (Fin 7)} (h : occurring d = i :: others)
include h

theorem spelled_text : spelled d.text = d.text.toList := by
  refine spelled_of_plain fun c hc => ?_
  rw [toList_text h] at hc
  rcases List.mem_append.1 hc with hc | hc
  · exact isPlain_factorOf d i c hc
  · obtain ⟨j, -, hc⟩ := List.mem_flatMap.1 hc
    rcases List.mem_append.1 hc with hc | hc
    · rw [List.mem_singleton.1 hc]
      exact ⟨by decide, rfl⟩
    · exact isPlain_factorOf d j c hc

theorem powersFit_text (hmin : ∀ j, d.get j ≠ -2147483648) : PowersFit d.text.toList := by
  rw [toList_text h]
  generalize hfront : (factorOf d i).toList = front
  have hfit : PowersFit front := hfront ▸ powersFit_factorOf (hmin i)
  clear hfront h
  induction others generalizing front with
  | nil => rwa [List.flatMap_nil, List.append_nil]
  | cons j others ih =>
    rw [List.flatMap_cons, ← List.append_assoc]
    exact ih _ (hfit.append_cons (by decide) (powersFit_factorOf (hmin j)))

end Text

/-! ## §4 The meaning of factors -/

section Meaning

open ScaledUnit UnitTree

theorem squaring_one (n : Nat) : squaring 1.0 1.0 n = 1.0 := by
  have hone : (1.0 * 1.0 : Float) = 1.0 := rfl
  induction n using Nat.strong_induction_on with
  | _ n ih =>
    rw [squaring, hone, ite_self]
    split
    · rfl
    · exact ih _ (by omega)

theorem powerOf_one (n : Int) : powerOf 1.0 n = 1.0 := by
  have hone : (1.0 / 1.0 : Float) = 1.0 := by decide +kernel
  rw [powerOf, squaring_one, hone, ite_self]

/-- A tree has the exponents of a dimension for some base quantities and no others, and the
factor 1. -/
structure Builds (d : Exponents) (quantities : List (Fin 7)) (t : UnitTree) : Prop where
  isKnown : t.IsKnown
  inRange : t.InRange
  exponent_eq : ∀ j, t.exponent j = if j ∈ quantities then d.get j else 0
  factor_eq : t.factor = 1.0

variable {d : Exponents} {quantities : List (Fin 7)} {t : UnitTree}

/-- The exponents of such a tree are those of the dimension or zero, so they fit. -/
theorem fits_of_exponent (hexponent : ∀ j, t.exponent j = if j ∈ quantities then d.get j else 0)
    (hfactor : t.factor = 1.0) : t.Fits := by
  refine ⟨fun j => ?_, by rw [hfactor]; rfl, by rw [hfactor]; rfl⟩
  rw [hexponent]
  split
  · exact fitsExponent_toInt _
  · rfl

theorem exponent_baseUnit :
    ∀ i j, (UnitTree.symbol (baseUnit i)).exponent j = if j = i then 1 else 0 := by
  decide

theorem factor_baseUnit (i : Fin 7) : (UnitTree.symbol (baseUnit i)).factor = 1.0 := by
  fin_cases i <;> rfl

theorem builds_factor (d : Exponents) (i : Fin 7) : Builds d [i] (factorTree d i) := by
  have hknown : (UnitTree.symbol (baseUnit i)).IsKnown := by
    have hall : ∀ i, isSymbol (baseUnit i) = true := by decide
    exact isKnown_symbol.2 (hall i)
  unfold factorTree
  split
  · next hone =>
    refine ⟨hknown, trivial, fun j => ?_, factor_baseUnit i⟩
    rw [exponent_baseUnit]
    by_cases hj : j = i <;> simp [hj, hone]
  · have hexponent : ∀ j, (UnitTree.power (.symbol (baseUnit i)) (d.get i)).exponent j =
        if j ∈ [i] then d.get j else 0 := fun j => by
      rw [UnitTree.exponent, exponent_baseUnit]
      by_cases hj : j = i <;> simp [hj]
    have hfactor : (UnitTree.power (.symbol (baseUnit i)) (d.get i)).factor = 1.0 := by
      rw [UnitTree.factor, factor_baseUnit, powerOf_one]
    exact ⟨hknown, ⟨trivial, fits_of_exponent hexponent hfactor⟩, hexponent, hfactor⟩

/-- Another factor adds the exponent of its base quantity. -/
theorem Builds.product {i : Fin 7} (h : Builds d quantities t) (hi : i ∉ quantities) :
    Builds d (quantities ++ [i]) (.product t (factorTree d i)) := by
  have hnext := builds_factor d i
  have hexponent : ∀ j, (UnitTree.product t (factorTree d i)).exponent j =
      if j ∈ quantities ++ [i] then d.get j else 0 := fun j => by
    rw [UnitTree.exponent, h.exponent_eq, hnext.exponent_eq]
    by_cases hj : j = i
    · subst hj
      simp [hi]
    · simp [hj]
  have hfactor : (UnitTree.product t (factorTree d i)).factor = 1.0 := by
    rw [UnitTree.factor, h.factor_eq, hnext.factor_eq]
    rfl
  exact ⟨isKnown_product.2 ⟨h.isKnown, hnext.isKnown⟩,
    ⟨h.inRange, hnext.inRange, fits_of_exponent hexponent hfactor⟩, hexponent, hfactor⟩

theorem Builds.factorsTree {others : List (Fin 7)} (h : Builds d quantities t)
    (hnodup : (quantities ++ others).Nodup) :
    Builds d (quantities ++ others) (factorsTree d t others) := by
  induction others generalizing quantities t with
  | nil => rwa [List.append_nil]
  | cons i others ih =>
    have hi : i ∉ quantities := fun hmem =>
      List.disjoint_of_nodup_append hnodup hmem List.mem_cons_self
    rw [← List.singleton_append, ← List.append_assoc] at hnodup ⊢
    exact ih (h.product hi) hnodup

end Meaning

/-- The text of a dimension denotes it, and no other factor than 1, unless an exponent is the
smallest there is. -/
theorem parse?_text {d : Exponents} (hmin : ∀ i, d.get i ≠ -2147483648) :
    parse? d.text = some ⟨d, 1.0⟩ := by
  have hget : ∀ j, j ∉ occurring d → d.get j = 0 := fun j hj => by simpa [mem_occurring] using hj
  cases h : occurring d with
  | nil =>
    have hd : d = .dimensionless := Exponents.ext_get fun j => by
      have hzero : ∀ j, Exponents.dimensionless.get j = 0 := by decide
      rw [hzero, hget j (by rw [h]; exact List.not_mem_nil)]
    have htext : d.text = "1" := by rw [Exponents.text, if_pos (isDimensionless_iff.2 h)]
    have htree : UnitTree.parse? "1" = some .one := by decide
    rw [htext, parse?, htree, hd]
    rfl
  | cons i others =>
    have hnodup : (occurring d).Nodup := (List.nodup_finRange 7).filter _
    rw [h] at hnodup
    have hbuilds : Builds d ([i] ++ others) (factorsTree d (factorTree d i) others) :=
      (builds_factor d i).factorsTree hnodup
    have htree : UnitTree.parse? d.text = some (factorsTree d (factorTree d i) others) := by
      rw [parseTree?_eq_some_iff, spelled_text h]
      · exact .inr (derives_text h)
      · rw [spelled_text h]
        exact powersFit_text h hmin
    refine parse?_eq_some_iff.2 ⟨_, htree, hbuilds.isKnown, hbuilds.inRange, fun j => ?_,
      hbuilds.factor_eq.symm⟩
    rw [hbuilds.exponent_eq, List.singleton_append, ← h]
    split
    · rfl
    · next hj => exact hget j hj

/-! ## §5 The smallest exponent -/

/-- A power with an overlong number behind its hyphen spoils the text around it. -/
theorem spoiled_of_hyphen {digits : List Char} (h : Overlong digits) (front after : List Char) :
    Spoiled (front ++ '^' :: '-' :: (digits ++ after)) := by
  refine ⟨front ++ ['^', '-'], digits, after, by simp, h, fun c hc => ?_, fun hawaits => ?_⟩
  · obtain rfl : '-' = c := by simpa using hc
    decide
  · rcases hawaits.of_append (List.cons_ne_nil _ _) with ⟨more, c, hc, heq | heq⟩ | ⟨heq, -⟩
    · have hlast : c = '-' := by simpa using (congrArg List.getLast? heq).symm
      rw [hlast] at hc
      exact absurd hc (by decide)
    · have hfirst : c = '^' := by
        have hpair : ['^'] ++ ['-'] = (more ++ [c]) ++ ['-'] := by simpa using heq
        simpa using (congrArg List.getLast? (List.append_cancel_right hpair)).symm
      rw [hfirst] at hc
      exact absurd hc (by decide)
    · cases heq

/-- Every factor stands in the text of the dimension. -/
theorem factorOf_infix {d : Exponents} {i : Fin 7} (h : i ∈ occurring d) :
    (factorOf d i).toList <:+: d.text.toList := by
  obtain ⟨first, others, heq⟩ := List.exists_cons_of_ne_nil (List.ne_nil_of_mem h)
  rw [toList_text heq]
  rw [heq] at h
  rcases List.mem_cons.1 h with rfl | hmem
  · exact (List.prefix_append _ _).isInfix
  · obtain ⟨before, after, rfl⟩ := List.append_of_mem hmem
    refine ⟨(factorOf d first).toList ++ ((before.flatMap fun j => "·".toList ++
      (factorOf d j).toList) ++ "·".toList), after.flatMap fun j => "·".toList ++
      (factorOf d j).toList, ?_⟩
    rw [List.flatMap_append, List.flatMap_cons]
    simp only [List.append_assoc]

theorem spoiled_text {d : Exponents} {i : Fin 7} (hmin : d.get i = -2147483648) :
    Spoiled (spelled d.text) := by
  have hmem : i ∈ occurring d := mem_occurring.2 (by rw [hmin]; decide)
  obtain ⟨first, others, heq⟩ := List.exists_cons_of_ne_nil (List.ne_nil_of_mem hmem)
  obtain ⟨before, after, htext⟩ := factorOf_infix hmem
  have hfactor : (factorOf d i).toList =
      (baseUnit i).toList ++ '^' :: '-' :: "2147483648".toList := by
    have hpower : (writeInt (-2147483648)).toList = '-' :: "2147483648".toList := by decide
    rw [factorOf, hmin, factorText, if_neg (by decide), String.toList_append,
      String.toList_append, hpower]
    simp
  have hoverlong : Overlong "2147483648".toList :=
    ⟨⟨by decide, List.all_iff_forall_prop.1 (by decide)⟩, by decide⟩
  rw [spelled_text heq, ← htext, hfactor]
  have h := spoiled_of_hyphen hoverlong (before ++ (baseUnit i).toList) after
  simpa using h

/-! ## §6 Texts of dimensions -/

/-- The unit of a dimension is a usual one, which denotes the dimension, or its text. -/
theorem unitFor_cases (d : Exponents) : Convention.unitFor d = d.text ∨
    dimensionOf (Convention.unitFor d) = .known d ∧ ∀ i, d.get i ≠ -2147483648 := by
  have hall : ∀ row ∈ Convention.usualUnits,
      dimensionOf row.2 = .known row.1 ∧ ∀ i, row.1.get i ≠ -2147483648 := by decide +kernel
  cases h : Convention.usualUnits.lookup d with
  | none => exact .inl (by rw [Convention.unitFor, h]; rfl)
  | some unit =>
    obtain ⟨before, after, hrows, -⟩ := List.lookup_eq_some_iff.1 h
    have hrow := hall (d, unit) (by rw [hrows]; simp)
    rw [Convention.unitFor, h]
    exact .inr hrow

/-- A dimension is read back from its text and from its usual unit, and no two dimensions have the
same text.  Only a dimension with the smallest exponent of all is not: its text is no unit. -/
theorem dimensionOf_text (d : Exponents) :
    ((∀ i, d.get i ≠ -2147483648) →
      dimensionOf d.text = .known d ∧ dimensionOf (Convention.unitFor d) = .known d ∧
        ∀ e : Exponents, (∀ i, e.get i ≠ -2147483648) → e.text = d.text → e = d) ∧
      ((∃ i, d.get i = -2147483648) →
        dimensionOf d.text = .unknown ∧ dimensionOf (Convention.unitFor d) = .unknown) := by
  have hknown : ∀ e : Exponents, (∀ i, e.get i ≠ -2147483648) → dimensionOf e.text = .known e :=
    fun e he => by
      rw [dimensionOf, parse?_text he]
      rfl
  constructor
  · intro hmin
    refine ⟨hknown d hmin, ?_, fun e he htext => ?_⟩
    · rcases unitFor_cases d with hunit | ⟨hunit, -⟩
      · rw [hunit, hknown d hmin]
      · exact hunit
    · have hsame := hknown e he
      rw [htext, hknown d hmin] at hsame
      exact (Dimension.known.inj hsame).symm
  · rintro ⟨i, hi⟩
    have hunknown : dimensionOf d.text = .unknown :=
      dimensionOf_eq_unknown_iff.2 (parse?_of_spoiled (spoiled_text hi))
    rcases unitFor_cases d with hunit | ⟨-, hmin⟩
    · exact ⟨hunknown, by rw [hunit, hunknown]⟩
    · exact absurd hi (hmin i)

/-- Both ends of the range of exponents. -/
theorem dimensionOf_text_ends :
    Exponents.text (.of 1 2147483647 (-2147483647) 0 0 0 (-1)) =
        "m·kg^2147483647·s^-2147483647·cd^-1" ∧
      dimensionOf "m·kg^2147483647·s^-2147483647·cd^-1" =
        .known (.of 1 2147483647 (-2147483647) 0 0 0 (-1)) ∧
      dimensionOf (Exponents.text (.of 1 0 (-2147483648) 0 0 0 0)) = .unknown := by
  have htext : Exponents.text (.of 1 2147483647 (-2147483647) 0 0 0 (-1)) =
      "m·kg^2147483647·s^-2147483647·cd^-1" := by decide
  have hknown := ((dimensionOf_text (.of 1 2147483647 (-2147483647) 0 0 0 (-1))).1
    (by decide)).1
  rw [htext] at hknown
  exact ⟨htext, hknown, ((dimensionOf_text (.of 1 0 (-2147483648) 0 0 0 0)).2 ⟨2, by decide⟩).1⟩

end PhysicsLab.Units
