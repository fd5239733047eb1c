import Mathlib.Data.Fintype.Card
import Mathlib.Data.Set.Finite.Basic
import Mathlib.Order.WellFounded
import PhysicsLab.Proofs.Graph.Reachability

/-!
# Layers decide whether there is a cycle

Peeling off a layer takes no vertex of a cycle away: each has another vertex of the cycle that it
depends on, so it is never ready.  And where nothing is ready, every waiting vertex depends on a
waiting one; as they are finitely many, there is a cycle among them.  So a graph is layered exactly
if it has no cycle.

## Main definitions

* `Graph.Closed` — the ends of edges are vertices
* `Graph.Within` — an edge between two of some vertices

## Main statements

* `Graph.peel?_isNone_iff`
* `Graph.isCyclic_iff`
-/

namespace PhysicsLab

namespace Graph

open Relation

variable {α : Type} {g : Graph α}

/-! ## §1 Edges between some vertices -/

/-- The ends of edges are vertices. -/
def Closed (g : Graph α) : Prop := ∀ v w, g.Edge v w → v ∈ g.vertices ∧ w ∈ g.vertices

/-- An edge leads from one vertex to another, and both are among some. -/
def Within (g : Graph α) (vertices : List α) (v w : α) : Prop :=
  g.Edge v w ∧ v ∈ vertices ∧ w ∈ vertices

theorem Closed.within_vertices (h : g.Closed) : g.Within g.vertices = g.Edge := by
  funext v w
  exact propext ⟨And.left, fun hedge => ⟨hedge, h v w hedge⟩⟩

/-- In a closed graph, what lies on a cycle is a vertex. -/
theorem Closed.mem_of_onCycle (h : g.Closed) {v : α} (hcycle : g.OnCycle v) : v ∈ g.vertices := by
  obtain ⟨w, hedge, -⟩ := TransGen.head'_iff.1 hcycle
  exact (h v w hedge).1

theorem not_cycle_nil : ¬ ∃ v, TransGen (g.Within []) v v := by
  rintro ⟨v, hcycle⟩
  obtain ⟨w, hedge, -⟩ := TransGen.head'_iff.1 hcycle
  exact List.not_mem_nil hedge.2.1

variable [DecidableEq α]

theorem isReady_iff {waiting : List α} {v : α} :
    g.isReady waiting v = true ↔ ∀ w, g.Edge v w → w ∉ waiting := by
  simp [isReady, mem_successors]

/-! ## §2 Peeling keeps cycles -/

/-- The waiting vertices that are not ready. -/
abbrev unready (g : Graph α) (waiting : List α) : List α :=
  waiting.filter fun w => !g.isReady waiting w

/-- A vertex with an edge to a waiting one is not ready. -/
theorem Within.mem_unready {waiting : List α} {v w : α} (h : g.Within waiting v w) :
    v ∈ g.unready waiting := by
  obtain ⟨hedge, hv, hw⟩ := h
  refine List.mem_filter.2 ⟨hv, ?_⟩
  rw [Bool.not_eq_true', ← Bool.not_eq_true, isReady_iff]
  exact fun hready => hready w hedge hw

/-- Only the end of a path can be ready. -/
theorem transGen_unready {waiting : List α} {v w : α} (hpath : TransGen (g.Within waiting) v w)
    (hw : w ∈ g.unready waiting) :
    v ∈ g.unready waiting ∧ TransGen (g.Within (g.unready waiting)) v w := by
  induction hpath using TransGen.head_induction_on with
  | single hedge => exact ⟨hedge.mem_unready, .single ⟨hedge.1, hedge.mem_unready, hw⟩⟩
  | head hedge _ ih =>
    obtain ⟨hmem, hrest⟩ := ih
    exact ⟨hedge.mem_unready, hrest.head ⟨hedge.1, hedge.mem_unready, hmem⟩⟩

theorem cycle_unready_iff {waiting : List α} :
    (∃ v, TransGen (g.Within (g.unready waiting)) v v) ↔
      ∃ v, TransGen (g.Within waiting) v v := by
  constructor
  · rintro ⟨v, hcycle⟩
    have hle : g.Within (g.unready waiting) ≤ g.Within waiting := fun x y ⟨hedge, hx, hy⟩ =>
      ⟨hedge, List.mem_of_mem_filter hx, List.mem_of_mem_filter hy⟩
    exact ⟨v, TransGen.mono hle v v hcycle⟩
  · rintro ⟨v, hcycle⟩
    obtain ⟨w, hedge, -⟩ := TransGen.head'_iff.1 hcycle
    exact ⟨v, (transGen_unready hcycle hedge.mem_unready).2⟩

/-! ## §3 Peeling gets stuck at a cycle -/

/-- Where no waiting vertex is ready, there is a cycle.  Without one, paths would order the waiting
vertices, and one that leads nowhere would be ready. -/
theorem cycle_of_stuck {v : α} {waiting : List α} (hv : v ∈ waiting)
    (hstuck : ∀ w ∈ waiting, ¬ g.isReady waiting w = true) :
    ∃ v, TransGen (g.Within waiting) v v := by
  by_contra hnone
  push Not at hnone
  let below : {w // w ∈ waiting} → {w // w ∈ waiting} → Prop :=
    fun x y => TransGen (g.Within waiting) y.1 x.1
  have : Finite {w // w ∈ waiting} := waiting.finite_toSet
  have : IsTrans {w // w ∈ waiting} below := ⟨fun _ _ _ hxy hyz => hyz.trans hxy⟩
  have : Std.Irrefl below := ⟨fun x => hnone x.1⟩
  have hwf : WellFounded below := Finite.wellFounded_of_trans_of_irrefl below
  -- A vertex with no path to another waiting vertex depends on none of them.
  obtain ⟨⟨w, hw⟩, -, hleast⟩ := hwf.has_min Set.univ ⟨⟨v, hv⟩, trivial⟩
  refine hstuck w hw (isReady_iff.2 fun x hedge hx => ?_)
  exact hleast ⟨x, hx⟩ trivial (.single ⟨hedge, hw, hx⟩)

/-- Within a bound that the number of waiting vertices keeps, they have no layers exactly if there
is a cycle among them. -/
theorem peel?_isNone_iff {bound : Nat} {waiting : List α} (hbound : waiting.length ≤ bound) :
    (g.peel? bound waiting).isNone = true ↔ ∃ v, TransGen (g.Within waiting) v v := by
  induction bound generalizing waiting with
  | zero =>
    obtain rfl : waiting = [] := List.length_eq_zero_iff.1 (Nat.le_zero.1 hbound)
    simpa [peel?] using not_cycle_nil
  | succ bound ih =>
    cases waiting with
    | nil => simpa [peel?] using not_cycle_nil
    | cons v rest =>
      unfold peel?
      dsimp only
      split
      · next hempty =>
        rw [List.isEmpty_iff, List.filter_eq_nil_iff] at hempty
        simpa using cycle_of_stuck List.mem_cons_self hempty
      · next hready =>
        rw [List.isEmpty_iff, List.filter_eq_nil_iff] at hready
        push Not at hready
        obtain ⟨w, hw, hready⟩ := hready
        -- A layer takes a vertex away, so what is left keeps the smaller bound.
        have hless : (g.unready (v :: rest)).length < (v :: rest).length :=
          List.length_filter_lt_length_iff_exists.2 ⟨w, hw, by simpa using hready⟩
        rw [Option.isNone_map, ih (Nat.le_of_lt_succ (Nat.lt_of_lt_of_le hless hbound)),
          cycle_unready_iff]

/-- A graph is cyclic exactly if a vertex depends, directly or not, on itself. -/
theorem isCyclic_iff (h : g.Closed) : g.isCyclic = true ↔ ∃ v, g.OnCycle v := by
  rw [isCyclic, layers?, peel?_isNone_iff (Nat.le_refl _), h.within_vertices]

end Graph

end PhysicsLab
