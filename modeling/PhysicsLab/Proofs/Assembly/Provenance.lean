import PhysicsLab.Proofs.Assembly.Merging
import PhysicsLab.Proofs.Assembly.Resolved

/-!
# Where the value of a symbol comes from

A value that a problem states is the one that its model uses, whatever the modules declare or imply
under the same symbol: merging keeps the quantity that came first, and stated parameters come before
those of modules.  A symbol that is not stated gets its value from the first module that has it.

Constants are also kept apart from the table, in SI.  Both places agree, so it makes no difference
which of them answers.

## Main definitions

* `Problem.quantity?` — the first quantity that is stated or declared under a symbol

## Main statements

* `get?_constants` — the values kept for constants are those of the table
* `Problem.toModel_values`
-/

namespace PhysicsLab

open PhysicsLab.Text

/-! ## §1 Quantities -/

/-- The quantity that a statement gives: its value in its unit, with its uncertainty. -/
def StatedParameter.quantity (s : StatedParameter) : Quantity :=
  { Quantity.of s.value (trim s.unit) with uncertainty := s.uncertainty }

/-- The quantity under a symbol: that of its first statement, or else that of the first module that
has the symbol. -/
def Problem.quantity? (p : Problem) (modules : List PhysicsModule) (symbol : String) :
    Option Quantity :=
  match firstStatement? p.parameters symbol with
  | some s => some s.quantity
  | none => (modules.findSome? fun b => b.parameters.get? symbol).map Parameter.quantity

theorem Problem.quantity?_eq_none_iff {p : Problem} {modules : List PhysicsModule}
    {symbol : String} :
    p.quantity? modules symbol = none ↔
      firstStatement? p.parameters symbol = none ∧
        ∀ b ∈ modules, symbol ∉ b.parameters.keys := by
  unfold quantity?
  cases hstated : firstStatement? p.parameters symbol with
  | some s => simp
  | none =>
    rw [Option.map_eq_none_iff, List.findSome?_eq_none_iff]
    simp only [Table.get?_eq_none_iff, true_and]

/-- The quantity in a merged table. -/
theorem map_quantity_mergeModules {p : Problem} {modules : List PhysicsModule} {symbol : String} :
    ((mergeModules (statedTable p.parameters) modules).get? symbol).map Parameter.quantity =
      p.quantity? modules symbol := by
  have hkept : ∀ p q : Parameter, (p.adopt q).quantity = p.quantity := fun _ _ => rfl
  rw [map_get?_mergeModules_of_kept hkept, get?_statedTable, Problem.quantity?]
  cases hstated : firstStatement? p.parameters symbol with
  | some s => rfl
  | none => simp

/-! ## §2 Constants -/

/-- Where parameters stand under their symbols, the constants kept apart are those of the table. -/
theorem get?_constants {t : Table Parameter} {modules : List PhysicsModule}
    (hplaced : ∀ e ∈ t.entries, e.2.symbol = e.1) (symbol : String) :
    (Hints.of t modules).constants.get? symbol =
      ((t.get? symbol).filter fun q => q.role = .constant).map Parameter.siValue := by
  have hentry : ∀ q ∈ t.values, t.get? q.symbol = some q := by
    intro q hq
    obtain ⟨e, he, rfl⟩ := List.mem_map.1 hq
    rw [hplaced e he]
    exact Table.get?_of_mem he
  cases hkept : (Hints.of t modules).constants.get? symbol with
  | some v =>
    -- What is kept comes from a constant of the table, and there is no other entry of its symbol.
    have hsource : (Hints.of t modules).constants.Every fun key v =>
        ∃ q ∈ t.values, q.role = .constant ∧ q.symbol = key ∧ q.siValue = v := by
      apply Table.every_ofList
      intro e he
      obtain ⟨q, hq, rfl⟩ := List.mem_map.1 he
      obtain ⟨hq, hrole⟩ := List.mem_filter.1 hq
      exact ⟨q, hq, of_decide_eq_true hrole, rfl, rfl⟩
    obtain ⟨q, hq, hrole, rfl, rfl⟩ := hsource (symbol, v) (Table.mem_of_get? hkept)
    rw [hentry q hq]
    simp [hrole]
  | none =>
    -- A constant of the table would have been kept.
    rw [Table.get?_eq_none_iff, Hints.of, Table.mem_keys_ofList] at hkept
    cases hget : t.get? symbol with
    | none => rfl
    | some q =>
      by_cases hrole : q.role = .constant
      · have hmem := Table.mem_of_get? hget
        refine absurd ⟨(q.symbol, q.siValue), List.mem_map_of_mem (List.mem_filter.2 ⟨?_, ?_⟩), ?_⟩
          hkept
        · exact List.mem_map_of_mem hmem
        · simpa using hrole
        · exact (hplaced _ hmem).symm
      · simp [hrole]

/-! ## §3 Values -/

/-- Whatever the constants answer, the table answers too. -/
theorem Problem.value?_toModel (p : Problem) (l : Library) (settings : RunSettings)
    (symbol : String) :
    (p.toModel l settings).value? symbol =
      ((p.toModel l settings).parameters.get? symbol).map Parameter.siValue := by
  have hconstants : (p.toModel l settings).hints.constants.get? symbol = _ :=
    get?_constants (p.resolved_toModel l settings).placed symbol
  unfold Model.value?
  rw [hconstants]
  cases (p.toModel l settings).parameters.get? symbol with
  | none => rfl
  | some q =>
    rw [Option.filter_some]
    by_cases hrole : q.role = .constant
    · rw [if_pos (decide_eq_true hrole)]
      rfl
    · rw [if_neg (by simpa using hrole)]
      rfl

/-- Where the value of a symbol in an assembled model comes from.

* The table holds the quantity of the first statement of the symbol.  If there is none, it holds the
  quantity of the first module that has the symbol.
* The constants kept apart are the constants of the table, with their values in SI.
* The value of the symbol is that quantity in SI.
* The symbol has no value exactly if it is not stated and no module has it. -/
theorem Problem.toModel_values (p : Problem) (l : Library) (settings : RunSettings)
    (symbol : String) :
    ((p.toModel l settings).parameters.get? symbol).map Parameter.quantity =
        p.quantity? (p.toModel l settings).modules symbol ∧
      (p.toModel l settings).hints.constants.get? symbol =
        (((p.toModel l settings).parameters.get? symbol).filter fun q =>
          q.role = .constant).map Parameter.siValue ∧
      (p.toModel l settings).value? symbol =
        (p.quantity? (p.toModel l settings).modules symbol).map Quantity.siValue ∧
      ((p.toModel l settings).value? symbol = none ↔
        firstStatement? p.parameters symbol = none ∧
          ∀ b ∈ (p.toModel l settings).modules, symbol ∉ b.parameters.keys) := by
  have hquantity : ((p.toModel l settings).parameters.get? symbol).map Parameter.quantity =
      p.quantity? (p.toModel l settings).modules symbol := map_quantity_mergeModules
  have hvalue : (p.toModel l settings).value? symbol =
      (p.quantity? (p.toModel l settings).modules symbol).map Quantity.siValue := by
    rw [p.value?_toModel, ← hquantity, Option.map_map]
    rfl
  refine ⟨hquantity, ?_, hvalue, ?_⟩
  · exact get?_constants (p.resolved_toModel l settings).placed symbol
  · rw [hvalue, Option.map_eq_none_iff, quantity?_eq_none_iff]

end PhysicsLab
