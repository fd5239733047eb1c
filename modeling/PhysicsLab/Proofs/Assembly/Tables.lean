import PhysicsLab.Assembly.Parameters
import PhysicsLab.Proofs.Table

/-!
# Keys and entries of assembled tables

Every table of a model is built by steps that put one entry at a time.  Two facts are carried along
such a fold: which keys have been added, and what holds of every entry so far.

Merging keeps a property of entries that `Parameter.adopt` keeps.  The symbol and the quantity of an
entry are those that came first, the dependencies those that came last, so both parts have to be
asked for where a property speaks about both.

## Main definitions

* `gathered` — the stated parameters before their dependencies are known

## Main statements

* `mem_keys_mergeModules`, `Table.Every.mergeModules`
* `every_statedTable`
-/

namespace PhysicsLab

open PhysicsLab.Text

/-! ## §1 Merging -/

section Merging

variable {P : String → Parameter → Prop} {t other : Table Parameter} {modules : List PhysicsModule}
  {key : String}

theorem mem_keys_mergeEntry {symbol : String} {incoming : Parameter} :
    key ∈ (mergeEntry t symbol incoming).keys ↔ key ∈ t.keys ∨ key = symbol := by
  unfold mergeEntry
  split
  · rw [Table.mem_keys_put, or_comm]
  · rw [Table.mem_keys_put, or_comm]

theorem mem_keys_mergeTable :
    key ∈ (mergeTable t other).keys ↔ key ∈ t.keys ∨ key ∈ other.keys := by
  have hstep : ∀ (t : Table Parameter) (e : String × Parameter),
      key ∈ (mergeEntry t e.1 e.2).keys ↔ key ∈ t.keys ∨ key = e.1 :=
    fun _ _ => mem_keys_mergeEntry
  rw [mergeTable, Table.mem_keys_foldl hstep]
  simp [Table.keys, entryKeys, eq_comm]

/-- A merged table has the keys of all tables. -/
theorem mem_keys_mergeModules :
    key ∈ (mergeModules t modules).keys ↔ key ∈ t.keys ∨ ∃ b ∈ modules, key ∈ b.parameters.keys :=
  Table.mem_keys_foldl fun _ _ => mem_keys_mergeTable

theorem Table.Every.mergeEntry {symbol : String} {incoming : Parameter} (h : t.Every P)
    (hadopt : ∀ key p q, P key p → P key q → P key (p.adopt q)) (hincoming : P symbol incoming) :
    (mergeEntry t symbol incoming).Every P := by
  unfold PhysicsLab.mergeEntry
  split
  · next p hp => exact h.put (hadopt symbol p incoming (h _ (Table.mem_of_get? hp)) hincoming)
  · exact h.put hincoming

theorem Table.Every.mergeTable (h : t.Every P)
    (hadopt : ∀ key p q, P key p → P key q → P key (p.adopt q)) (hother : other.Every P) :
    (mergeTable t other).Every P :=
  List.foldlRecOn other.entries _ h fun _ ht e he => ht.mergeEntry hadopt (hother e he)

/-- What holds of every entry of all tables holds of every entry of the merged one, if adopting a
parameter keeps it. -/
theorem Table.Every.mergeModules (h : t.Every P)
    (hadopt : ∀ key p q, P key p → P key q → P key (p.adopt q))
    (hmodules : ∀ b ∈ modules, b.parameters.Every P) : (mergeModules t modules).Every P :=
  List.foldlRecOn modules _ h fun _ ht b hb => ht.mergeTable hadopt (hmodules b hb)

end Merging

/-! ## §2 Stated parameters -/

/-- The stated parameters, before the dependencies of their formulas are looked up. -/
def gathered (ps : List StatedParameter) : Table Parameter := ps.foldl addStated .empty

theorem statedTable_eq (ps : List StatedParameter) :
    statedTable ps = (gathered ps).mapValues fun _ p => p.withDependencies (gathered ps).keys := rfl

theorem keys_statedTable (ps : List StatedParameter) :
    (statedTable ps).keys = (gathered ps).keys := Table.keys_mapValues _ _

/-- What holds of each stated parameter that has a symbol holds of every entry of their table. -/
theorem every_statedTable {P : String → Parameter → Prop} {ps : List StatedParameter}
    (h : ∀ p ∈ ps, (trim p.symbol).isEmpty = false →
      P (trim p.symbol) (p.toParameter.withDependencies (statedTable ps).keys)) :
    (statedTable ps).Every P := by
  rw [keys_statedTable] at h
  rw [statedTable_eq, Table.every_mapValues]
  refine List.foldlRecOn ps addStated Table.every_empty fun t ht p hp => ?_
  unfold addStated
  show Table.Every _
    (if (trim p.symbol).isEmpty || t.has (trim p.symbol) then t else t.put (trim p.symbol) _)
  split
  · exact ht
  · next hnew =>
    -- Only a symbol that is neither empty nor there already is put.
    rw [Bool.or_eq_true, not_or] at hnew
    exact ht.put (h p hp (Bool.eq_false_iff.2 hnew.1))

end PhysicsLab
