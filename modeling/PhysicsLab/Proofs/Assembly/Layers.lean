import PhysicsLab.Assembly.Hints
import PhysicsLab.Proofs.Graph.Sweep
import PhysicsLab.Proofs.Table

/-!
# The layers of a dependency table

A table lists for each key what it depends on.  If no key depends on itself, directly or not, the
table has layers: a key is in the layer whose number is the length of its longest chain of
dependencies.  Otherwise all keys are in one layer.  What is no key of the table counts for nothing,
and neither does a repetition.

The layers do not depend on how a topological sort orders the keys.

## Main definitions

* `Table.DependsOn` — a key lists another

## Main statements

* `layersOf_spec`
-/

namespace PhysicsLab

open Relation

variable {t : Table (List String)}

/-- A key lists another. -/
def Table.DependsOn (t : Table (List String)) (id d : String) : Prop :=
  d ∈ t.keys ∧ ∃ listed, t.get? id = some listed ∧ d ∈ listed

/-! ## §1 The graph of a table -/

theorem edge_dependencyGraph_iff {id d : String} :
    (dependencyGraph t).Edge id d ↔ t.DependsOn id d := by
  simp only [Graph.Edge, dependencyGraph, List.mem_flatMap, List.mem_map, List.mem_filter,
    Table.has_iff]
  constructor
  · rintro ⟨e, he, x, ⟨hlisted, hkey⟩, heq⟩
    obtain ⟨rfl, rfl⟩ := Prod.mk.inj heq
    exact ⟨hkey, e.2, Table.get?_of_mem he, hlisted⟩
  · rintro ⟨hkey, listed, hget, hlisted⟩
    exact ⟨(id, listed), Table.mem_of_get? hget, d, ⟨hlisted, hkey⟩, rfl⟩

theorem edge_dependencyGraph : (dependencyGraph t).Edge = t.DependsOn := by
  funext id d
  exact propext edge_dependencyGraph_iff

theorem closed_dependencyGraph : (dependencyGraph t).Closed := by
  intro id d hedge
  obtain ⟨hkey, listed, hget, -⟩ := edge_dependencyGraph_iff.1 hedge
  exact ⟨Table.mem_keys_of_mem (Table.mem_of_get? hget), hkey⟩

theorem isCyclic_dependencyGraph_iff :
    (dependencyGraph t).isCyclic = true ↔ ∃ id, TransGen t.DependsOn id id := by
  rw [Graph.isCyclic_iff closed_dependencyGraph, ← edge_dependencyGraph]

theorem acyclic_of_isTopological {order : List String}
    (h : (dependencyGraph t).IsTopological order) : ∀ id, ¬ TransGen t.DependsOn id id := by
  rw [← edge_dependencyGraph]
  exact h.acyclic

/-! ## §2 Layers -/

theorem layers?_eq_some (h : ∀ id, ¬ TransGen t.DependsOn id id) :
    (dependencyGraph t).layers? = some (layersOf t) := by
  have hsome : (dependencyGraph t).layers? ≠ none := fun hnone => by
    obtain ⟨id, hcycle⟩ := isCyclic_dependencyGraph_iff.1 (Option.isNone_iff_eq_none.2 hnone)
    exact h id hcycle
  obtain ⟨layers, hlayers⟩ := Option.ne_none_iff_exists'.1 hsome
  rw [layersOf, hlayers, Option.getD_some]

theorem layering_layersOf (h : ∀ id, ¬ TransGen t.DependsOn id id) :
    Layering t.DependsOn t.keys (layersOf t) := by
  rw [← edge_dependencyGraph]
  exact Graph.layering_layers? closed_dependencyGraph (layers?_eq_some h)

theorem layersOf_of_cycle (h : ∃ id, TransGen t.DependsOn id id) : layersOf t = [t.keys] := by
  have hnone : (dependencyGraph t).layers? = none :=
    Option.isNone_iff_eq_none.1 (isCyclic_dependencyGraph_iff.2 h)
  rw [layersOf, hnone, Option.getD_none]

theorem sweep?_dependencyGraph (h : ∀ id, ¬ TransGen t.DependsOn id id) {order : List String}
    (horder : (dependencyGraph t).IsTopological order) :
    (dependencyGraph t).sweep? order = some (layersOf t) :=
  (Graph.layering_layers? closed_dependencyGraph (layers?_eq_some h)).sweep?_eq t.distinct horder

/-- If no key depends on itself, the layers of a table hold every key once, in the order of the
keys, above all that it depends on and directly above some of it: that is, the keys of each height.
If one does, there is a single layer.

With the answer of any topological sort, and there is one, a sweep finds the same layers, and a
layer for every key. -/
theorem layersOf_spec (t : Table (List String)) :
    ((∀ id, ¬ TransGen t.DependsOn id id) →
      Layering t.DependsOn t.keys (layersOf t) ∧ (layersOf t).flatten.Nodup ∧
        ∀ k id, Placed (layersOf t) k id ↔ id ∈ t.keys ∧ IsHeight t.DependsOn id k) ∧
    ((∃ id, TransGen t.DependsOn id id) → layersOf t = [t.keys]) ∧
    (∃ sorted, (dependencyGraph t).IsSorting sorted) ∧
    ∀ sorted, (dependencyGraph t).IsSorting sorted →
      (dependencyGraph t).layersAlong? sorted = some (layersOf t) := by
  refine ⟨fun hacyclic => ?_, layersOf_of_cycle, ?_, fun sorted hsorted => ?_⟩
  · have hlayering := layering_layersOf hacyclic
    refine ⟨hlayering, hlayering.perm.nodup_iff.2 t.distinct, fun k id => ⟨fun hplaced => ?_, ?_⟩⟩
    · exact ⟨hlayering.exists_placed.1 ⟨k, hplaced⟩, hlayering.isHeight hplaced⟩
    · rintro ⟨hid, hheight⟩
      obtain ⟨j, hplaced⟩ := hlayering.exists_placed.2 hid
      exact (hlayering.isHeight hplaced).unique hheight ▸ hplaced
  · by_cases hcycle : ∃ id, TransGen t.DependsOn id id
    · exact ⟨none, by rwa [← edge_dependencyGraph] at hcycle⟩
    · rw [not_exists] at hcycle
      exact ⟨some _, (Graph.layering_layers? closed_dependencyGraph
        (layers?_eq_some hcycle)).isTopological closed_dependencyGraph⟩
  · cases sorted with
    | none =>
      have hcycle : ∃ id, TransGen t.DependsOn id id := by
        rw [← edge_dependencyGraph]
        exact hsorted
      rw [Graph.layersAlong?, layersOf_of_cycle hcycle]
      rfl
    | some order =>
      exact sweep?_dependencyGraph (acyclic_of_isTopological hsorted) hsorted

/-- Four modules; one lists a dependency twice, and another one that is missing. -/
def branchingTable : Table (List String) :=
  .ofList [("c", ["a", "b", "a"]), ("a", []), ("b", ["missing", "a"]), ("d", [])]

/-- Two modules that depend on each other, and one beside them. -/
def circularTable : Table (List String) := .ofList [("a", ["b"]), ("b", ["a"]), ("c", [])]

/-- The branching table has three layers, whichever of two orders they are found in, and the third
holds the key with a chain of two steps.  The circular table has one. -/
theorem layersOf_branchingTable :
    (layersOf branchingTable = [["a", "d"], ["b"], ["c"]] ∧
      IsHeight branchingTable.DependsOn "c" 2 ∧
      (dependencyGraph branchingTable).sweep? ["d", "a", "b", "c"] =
        some (layersOf branchingTable) ∧
      (dependencyGraph branchingTable).sweep? ["a", "b", "c", "d"] =
        some (layersOf branchingTable)) ∧
    layersOf circularTable = [["a", "b", "c"]] := by
  have htopological : ∀ order ∈ [["d", "a", "b", "c"], ["a", "b", "c", "d"]],
      (dependencyGraph branchingTable).IsTopological order := by
    have hperm : ∀ order ∈ [["d", "a", "b", "c"], ["a", "b", "c", "d"]],
        order.Perm (dependencyGraph branchingTable).vertices := by decide
    have hlater : ∀ order ∈ [["d", "a", "b", "c"], ["a", "b", "c", "d"]],
        ∀ e ∈ (dependencyGraph branchingTable).edges, order.idxOf e.2 < order.idxOf e.1 := by
      decide
    exact fun order horder => ⟨hperm order horder, fun v w => hlater order horder (v, w)⟩
  obtain ⟨hlayers, -, -, hsweep⟩ := layersOf_spec branchingTable
  have hsweeps : ∀ order ∈ [["d", "a", "b", "c"], ["a", "b", "c", "d"]],
      (dependencyGraph branchingTable).sweep? order = some (layersOf branchingTable) :=
    fun order horder => hsweep (some order) (htopological order horder)
  have hbranching : layersOf branchingTable = [["a", "d"], ["b"], ["c"]] := by decide
  obtain ⟨-, -, hplaced⟩ :=
    hlayers (acyclic_of_isTopological (htopological ["a", "b", "c", "d"] (by decide)))
  have hc : Placed (layersOf branchingTable) 2 "c" := by
    rw [hbranching]
    exact ⟨["c"], rfl, List.mem_singleton_self _⟩
  refine ⟨⟨hbranching, ((hplaced 2 "c").1 hc).2, hsweeps _ (by decide), hsweeps _ (by decide)⟩, ?_⟩
  exact (layersOf_spec circularTable).2.1
    (isCyclic_dependencyGraph_iff.1 (by decide))

end PhysicsLab
