import PhysicsLab.Proofs.Formula.Lexemes
import PhysicsLab.Proofs.Json.Numeral
import PhysicsLab.Proofs.Text.Cutting

/-!
# The order of joined derivatives

A formula is joined of derivatives that do not hold each other and of texts without derivatives.
The highest order is what such a formula is about.  What is found is that order or the number of
derivatives, whichever is greater, since derivatives are counted whether they stand in one another
or side by side.

## Main definitions

* `Derivative`, `Term` — a derivative, and a derivative with the text behind it
* `highestOrder` — the highest order in some terms

## Main statements

* `differentialOrder?_joined` — the order that is found, and when it is the highest
-/

namespace PhysicsLab.Formula

open PhysicsLab.Number PhysicsLab.Text

/-! ## §1 What is written -/

/-- A derivative of a quantity, with its order or without. -/
structure Derivative where
  quantity : Name
  wrt : Name
  order? : Option Nat
  inRange : ∀ n, order? = some n → 1 ≤ n ∧ n ≤ orderLimit

namespace Derivative

/-- A derivative without an order. -/
def plain (quantity wrt : Name) : Derivative :=
  ⟨quantity, wrt, none, fun _ h => absurd h.symm (Option.some_ne_none _)⟩

/-- A derivative with an order. -/
def ofOrder (quantity wrt : Name) (n : Nat) (h : 1 ≤ n ∧ n ≤ orderLimit) : Derivative :=
  ⟨quantity, wrt, some n, fun _ hn => Option.some.inj hn ▸ h⟩

/-- A derivative without a stated order is of the first. -/
def order (d : Derivative) : Nat := d.order?.getD 1

def orderChars (d : Derivative) : List Char :=
  match d.order? with
  | some n => ',' :: ' ' :: digitChars n
  | none => []

/-- What stands in the brackets. -/
def arguments (d : Derivative) : List Char :=
  d.quantity.chars ++ ',' :: ' ' :: (d.wrt.chars ++ d.orderChars)

def chars (d : Derivative) : List Char := derivativeMark ++ (d.arguments ++ [')'])

theorem one_le_order (d : Derivative) : 1 ≤ d.order := by
  rw [order]
  cases h : d.order? with
  | none => exact le_rfl
  | some n => exact (d.inRange n h).1

end Derivative

/-- A derivative and the text up to the next one. -/
structure Term where
  derivative : Derivative
  behind : List Char
  unmarked : occursIn derivativeMark behind = false

/-- The text of terms behind a first text. -/
def joined (front : List Char) (terms : List Term) : String :=
  String.ofList (front ++ terms.flatMap fun t => t.derivative.chars ++ t.behind)

/-- The highest order of the derivatives in some terms. -/
def highestOrder (terms : List Term) : Nat :=
  (terms.map fun t => t.derivative.order).foldr max 0

/-! ## §2 Arguments -/

namespace Derivative

theorem isIdentChar_of_mem_digitChars {n : Nat} : ∀ c ∈ digitChars n, isIdentChar c = true :=
  fun c hc => isIdentChar_of_isDecimalDigit
    (isDecimalDigit_of_isDigit (Json.isDigit_of_mem_digitChars c hc))

/-- The characters in the brackets belong to names and numbers, or stand between them. -/
theorem mem_arguments {d : Derivative} {c : Char} (h : c ∈ d.arguments) :
    isIdentChar c = true ∨ c = ',' ∨ c = ' ' := by
  have horder : ∀ c ∈ d.orderChars, isIdentChar c = true ∨ c = ',' ∨ c = ' ' := by
    intro c hc
    rw [orderChars] at hc
    cases hd : d.order? with
    | none =>
      rw [hd] at hc
      cases hc
    | some n =>
      rw [hd, List.mem_cons, List.mem_cons] at hc
      rcases hc with hcomma | hblank | hdigit
      · exact .inr (.inl hcomma)
      · exact .inr (.inr hblank)
      · exact .inl (isIdentChar_of_mem_digitChars c hdigit)
  rw [arguments, List.mem_append, List.mem_cons, List.mem_cons, List.mem_append] at h
  rcases h with hquantity | hcomma | hblank | hwrt | hbehind
  · exact .inl (d.quantity.isIdentChar_of_mem c hquantity)
  · exact .inr (.inl hcomma)
  · exact .inr (.inr hblank)
  · exact .inl (d.wrt.isIdentChar_of_mem c hwrt)
  · exact horder c hbehind

theorem not_mem_arguments {d : Derivative} {c : Char} (hc : c = '(' ∨ c = ')') :
    c ∉ d.arguments := fun h => by
  rcases hc with rfl | rfl
  · have hnot : ¬(isIdentChar '(' = true ∨ '(' = ',' ∨ '(' = ' ') := by decide
    exact hnot (mem_arguments h)
  · have hnot : ¬(isIdentChar ')' = true ∨ ')' = ',' ∨ ')' = ' ') := by decide
    exact hnot (mem_arguments h)

/-- The order is read back, where one is stated. -/
theorem statedOrder?_arguments (d : Derivative) (rest : List Char) :
    statedOrder? (d.arguments ++ ')' :: rest) = d.order? := by
  have hopen : ∀ c ∈ d.arguments, (c != ')') = true := fun c hc =>
    bne_iff_ne.2 fun heq => not_mem_arguments (.inr rfl) (heq ▸ hc)
  have hstop : ∀ c ∈ (')' :: rest).head?, (c != ')') = false := fun c hc => by
    rw [← Option.some.inj hc]
    rfl
  have hname : ∀ n : Name, ∀ c ∈ n.chars, (c == ',') = false := fun n c hc =>
    beq_eq_false_iff_ne.2 fun heq => by
      have hident := n.isIdentChar_of_mem c hc
      rw [heq] at hident
      revert hident
      decide
  have hwrt : ∀ c ∈ ' ' :: d.wrt.chars, (c == ',') = false :=
    List.forall_mem_cons.2 ⟨by decide, hname d.wrt⟩
  rw [statedOrder?, (takeWhile_append_run hopen hstop).1, arguments, cut_append_cons (by decide),
    cut_eq_singleton (hname d.quantity), orderChars]
  cases hd : d.order? with
  | none =>
    dsimp only
    rw [List.append_nil, cut_eq_singleton hwrt]
    rfl
  | some n =>
    have hdigits := Json.isDigit_of_mem_digitChars (n := n)
    have hthird : ∀ c ∈ ' ' :: digitChars n, (c == ',') = false :=
      List.forall_mem_cons.2 ⟨by decide, fun c hc => beq_eq_false_iff_ne.2 fun heq => by
        have hdigit := hdigits c hc
        rw [heq] at hdigit
        cases hdigit⟩
    dsimp only
    rw [← List.cons_append, cut_append_cons (by decide), cut_eq_singleton hwrt,
      cut_eq_singleton hthird]
    have htrim : trimChars (' ' :: digitChars n) = digitChars n := by
      rw [trimChars_cons_of_isBlank (by decide),
        trimChars_eq_self fun c hc => isBlank_of_isDigit (hdigits c hc)]
    show countUpTo? orderLimit (trimChars (' ' :: digitChars n)) = some n
    rw [htrim, Json.countUpTo?_digitChars (d.inRange n hd).2]

/-- No derivative begins in the brackets of one or behind them. -/
theorem not_infix_behind (d : Derivative) {behind : List Char}
    (h : occursIn derivativeMark behind = false) :
    ¬derivativeMark <:+: d.arguments ++ ')' :: behind := fun hinfix => by
  rcases infix_append_cons (by decide) hinfix with harguments | hbehind
  · exact not_mem_arguments (.inl rfl) (harguments.subset (by decide))
  · exact occursIn_eq_false_iff.1 h hbehind

end Derivative

/-! ## §3 The order that is found -/

theorem cutAt_joined {front : List Char} (hfront : occursIn derivativeMark front = false)
    (terms : List Term) : cutAt derivativeMark (joined front terms).toList =
      front :: terms.map fun t => t.derivative.arguments ++ ')' :: t.behind := by
  have hpieces : ∀ piece ∈ terms.map (fun t => t.derivative.arguments ++ ')' :: t.behind),
      ¬derivativeMark <:+: piece := by
    intro piece hpiece
    obtain ⟨t, -, rfl⟩ := List.mem_map.1 hpiece
    exact t.derivative.not_infix_behind t.unmarked
  have hcut := cutAt_append_flatMap (by decide) (occursIn_eq_false_iff.1 hfront) hpieces
  rw [List.flatMap_map] at hcut
  rw [joined, String.toList_ofList, ← hcut]
  simp only [Derivative.chars, List.append_assoc, List.singleton_append]
  rfl

/-- The highest order that is stated, where nothing stated counts as one. -/
theorem max?_statedOrders (terms : List Term) :
    ((terms.filterMap fun t => t.derivative.order?).max?).getD 1 = max 1 (highestOrder terms) := by
  induction terms with
  | nil => rfl
  | cons t rest ih =>
    have hhighest : highestOrder (t :: rest) = max t.derivative.order (highestOrder rest) := rfl
    rw [hhighest, Derivative.order]
    cases hd : t.derivative.order? with
    | none =>
      rw [List.filterMap_cons, hd, Option.getD_none]
      dsimp only
      omega
    | some n =>
      have hn : 1 ≤ n := (t.derivative.inRange n hd).1
      rw [List.filterMap_cons, hd, List.max?_cons, Option.getD_some, Option.getD_some]
      -- The rest may state no order at all.
      cases hrest : (rest.filterMap fun t => t.derivative.order?).max? with
      | none =>
        rw [hrest, Option.getD_none] at ih
        rw [Option.elim_none]
        omega
      | some k =>
        rw [hrest, Option.getD_some] at ih
        rw [Option.elim_some]
        omega

theorem one_le_highestOrder {terms : List Term} (h : terms ≠ []) : 1 ≤ highestOrder terms := by
  obtain ⟨t, rest, rfl⟩ := List.exists_cons_of_ne_nil h
  exact t.derivative.one_le_order.trans (Nat.le_max_left _ _)

theorem differentialOrder?_eq_max {front : List Char} {terms : List Term}
    (hfront : occursIn derivativeMark front = false) (hterms : terms ≠ []) :
    differentialOrder? (joined front terms) =
      some (max (highestOrder terms) (min orderLimit terms.length)) := by
  have hdifferential : isDifferential (joined front terms) = true := by
    obtain ⟨t, rest, rfl⟩ := List.exists_cons_of_ne_nil hterms
    rw [isDifferential, occursIn_iff, joined, String.toList_ofList, List.flatMap_cons,
      Derivative.chars]
    exact ⟨front, _, by rw [List.append_assoc, List.append_assoc, List.append_assoc]⟩
  -- Each piece behind a marker is the arguments of a term and the text behind it.
  have hstated : ((terms.map fun t => t.derivative.arguments ++ ')' :: t.behind).filterMap
      statedOrder?) = terms.filterMap fun t => t.derivative.order? := by
    rw [List.filterMap_map]
    exact List.filterMap_congr fun t _ => t.derivative.statedOrder?_arguments t.behind
  have hone := one_le_highestOrder hterms
  have hlength := List.length_pos_iff.2 hterms
  have hlimit : 1 ≤ orderLimit := by decide
  rw [differentialOrder?, if_pos hdifferential, cutAt_joined hfront, List.drop_one, List.tail_cons]
  dsimp only
  rw [hstated, max?_statedOrders, List.length_map]
  congr 1
  split <;> omega

/-- The order that is found is the highest one or the number of derivatives, whichever is greater,
up to the limit.  So it is the highest order unless there are more derivatives than that. -/
theorem differentialOrder?_joined {front : List Char} {terms : List Term}
    (hfront : occursIn derivativeMark front = false) (hterms : terms ≠ []) :
    differentialOrder? (joined front terms) =
        some (max (highestOrder terms) (min orderLimit terms.length)) ∧
      (differentialOrder? (joined front terms) = some (highestOrder terms) ↔
        min orderLimit terms.length ≤ highestOrder terms) := by
  have horder := differentialOrder?_eq_max hfront hterms
  refine ⟨horder, ?_⟩
  rw [horder, Option.some.injEq]
  exact max_eq_left_iff

/-- The formula `diff(x, t, 2) = diff(v, t)`. -/
def acceleration : List Term := [
  ⟨.ofOrder (.single 'x' rfl) (.single 't' rfl) 2 (by decide), [' ', '=', ' '], rfl⟩,
  ⟨.plain (.single 'v' rfl) (.single 't' rfl), [], rfl⟩]

/-- One derivative of the second order beside one of the first: the highest order is found. -/
theorem differentialOrder?_joined_acceleration :
    occursIn derivativeMark [] = false ∧ acceleration ≠ [] ∧
      differentialOrder? (joined [] acceleration) =
        some (max (highestOrder acceleration) (min orderLimit acceleration.length)) ∧
      (differentialOrder? (joined [] acceleration) = some (highestOrder acceleration) ↔
        min orderLimit acceleration.length ≤ highestOrder acceleration) :=
  ⟨by decide, by decide, differentialOrder?_joined (by decide) (by decide)⟩

/-- The formula `diff(x, t) + diff(y, t)`. -/
def speeds : List Term := [
  ⟨.plain (.single 'x' rfl) (.single 't' rfl), [' ', '+', ' '], rfl⟩,
  ⟨.plain (.single 'y' rfl) (.single 't' rfl), [], rfl⟩]

/-- Two derivatives of the first order side by side are taken for one of the second. -/
theorem differentialOrder?_siblings :
    joined [] speeds = "diff(x, t) + diff(y, t)" ∧ highestOrder speeds = 1 ∧
      differentialOrder? (joined [] speeds) = some 2 := by decide

end PhysicsLab.Formula
