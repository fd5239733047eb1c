import Mathlib.Logic.Relation
import PhysicsLab.Graph

/-!
# Reachability

Exploring a graph from a vertex finds exactly the vertices that a path leads to.  Every step either
drops a pending vertex or follows all edges of a new one, so the pending vertices and the edges that
are not yet explored bound the number of steps.

## Main definitions

* `Graph.Edge`, `Graph.Leads` — one edge, and a path of any length
* `Graph.Acyclic` — no path of one edge or more leads back to where it began
* `Graph.unexplored` — the number of edges from vertices that have not been seen

## Main statements

* `Graph.reaches_iff_leads` — reachability is decided
* `Graph.acyclic_snoc` — an edge that closes no cycle
-/

namespace PhysicsLab

namespace Graph

open Relation

variable {α : Type} {g : Graph α}

/-! ## §1 Paths -/

/-- An edge leads from one vertex to another. -/
def Edge (g : Graph α) (v w : α) : Prop := (v, w) ∈ g.edges

/-- A path leads from one vertex to another. -/
abbrev Leads (g : Graph α) : α → α → Prop := ReflTransGen g.Edge

/-- A vertex depends on itself, directly or not. -/
abbrev OnCycle (g : Graph α) (v : α) : Prop := TransGen g.Edge v v

/-- No vertex depends on itself. -/
def Acyclic (g : Graph α) : Prop := ∀ v, ¬ g.OnCycle v

/-- A graph with more edges has more paths. -/
theorem Leads.mono {h : Graph α} {v w : α} (hpath : g.Leads v w)
    (hedges : ∀ e ∈ g.edges, e ∈ h.edges) : h.Leads v w := by
  have hle : g.Edge ≤ h.Edge := fun v w hedge => hedges (v, w) hedge
  exact ReflTransGen.mono hle v w hpath

/-- A path in a graph with one more edge either avoids that edge or passes over it: up to its start
and on from its end, it can then be chosen to avoid the edge. -/
theorem transGen_snoc {vertices : List α} {edges : List (α × α)} {a b v w : α}
    (h : TransGen (Edge ⟨vertices, edges ++ [(a, b)]⟩) v w) :
    TransGen (Edge ⟨vertices, edges⟩) v w ∨
      Leads ⟨vertices, edges⟩ v a ∧ Leads ⟨vertices, edges⟩ b w := by
  have hstep {x y : α} (hxy : Edge ⟨vertices, edges ++ [(a, b)]⟩ x y) :
      Edge ⟨vertices, edges⟩ x y ∨ x = a ∧ y = b := by
    simpa [Edge] using hxy
  -- On the way to the end of the path, the latest passage over the new edge is kept.
  induction h with
  | single hvw =>
    rcases hstep hvw with hvw | ⟨rfl, rfl⟩
    · exact .inl (.single hvw)
    · exact .inr ⟨.refl, .refl⟩
  | tail _ hwx ih =>
    rcases hstep hwx with hwx | ⟨rfl, rfl⟩
    · rcases ih with hvw | ⟨hva, hbw⟩
      · exact .inl (hvw.tail hwx)
      · exact .inr ⟨hva, hbw.tail hwx⟩
    · rcases ih with hva | ⟨hva, -⟩
      · exact .inr ⟨hva.to_reflTransGen, .refl⟩
      · exact .inr ⟨hva, .refl⟩

/-- An edge whose end does not lead back to its start closes no cycle. -/
theorem acyclic_snoc {vertices : List α} {edges : List (α × α)} {a b : α}
    (hacyclic : Acyclic ⟨vertices, edges⟩) (hback : ¬ Leads ⟨vertices, edges⟩ b a) :
    Acyclic ⟨vertices, edges ++ [(a, b)]⟩ := by
  intro v hcycle
  rcases transGen_snoc hcycle with hold | ⟨hva, hbv⟩
  · exact hacyclic v hold
  · exact hback (hbv.trans hva)

/-! ## §2 Exploration -/

/-- What exploring finds, given enough steps: the vertices seen before and the pending ones, what
paths lead to from there, and with every vertex all that it depends on. -/
structure Explored (g : Graph α) (pending seen found : List α) : Prop where
  seen_subset : seen ⊆ found
  pending_subset : pending ⊆ found
  reached : ∀ v ∈ found, v ∈ seen ∨ ∃ p ∈ pending, g.Leads p v
  closed : (∀ v ∈ seen, ∀ w, g.Edge v w → w ∈ seen ∨ w ∈ pending) →
    ∀ v ∈ found, ∀ w, g.Edge v w → w ∈ found

theorem explored_nil (seen : List α) : g.Explored [] seen seen where
  seen_subset := List.Subset.refl _
  pending_subset := List.nil_subset _
  reached := fun _ hv => .inl hv
  closed := fun hseen v hv w hw => (hseen v hv w hw).resolve_right List.not_mem_nil

/-- A pending vertex that has been seen is dropped. -/
theorem Explored.drop {v : α} {pending seen found : List α} (hv : v ∈ seen)
    (h : g.Explored pending seen found) : g.Explored (v :: pending) seen found where
  seen_subset := h.seen_subset
  pending_subset := List.cons_subset.2 ⟨h.seen_subset hv, h.pending_subset⟩
  reached := fun w hw => (h.reached w hw).imp_right fun ⟨p, hp, hpath⟩ =>
    ⟨p, List.mem_cons_of_mem _ hp, hpath⟩
  closed := fun hseen => h.closed fun w hw x hx => by
    rcases hseen w hw x hx with hin | hin
    · exact .inl hin
    · rcases List.mem_cons.1 hin with rfl | hin
      · exact .inl hv
      · exact .inr hin

variable [DecidableEq α]

theorem mem_successors {v w : α} : w ∈ g.successors v ↔ g.Edge v w := by
  simp [successors, Edge]

theorem mem_predecessors {v w : α} : w ∈ g.predecessors v ↔ g.Edge w v := by
  simp [predecessors, Edge]

/-- The edges from vertices that have not been seen. -/
def unexplored (g : Graph α) (seen : List α) : Nat := g.edges.countP fun e => !seen.contains e.1

/-- Seeing a new vertex explores its edges. -/
theorem unexplored_cons {v : α} {seen : List α} (hv : v ∉ seen) :
    (g.successors v).length + g.unexplored (v :: seen) = g.unexplored seen := by
  obtain ⟨vertices, edges⟩ := g
  simp only [successors, unexplored, List.length_map]
  -- An edge is one that is followed now, one that was followed before, or one that is left.
  induction edges with
  | nil => rfl
  | cons e rest ih =>
    by_cases he : e.1 = v
    · simp [he, hv] at ih ⊢
      omega
    · by_cases hseen : e.1 ∈ seen
      · simp [he, hseen] at ih ⊢
        omega
      · simp [he, hseen] at ih ⊢
        omega

/-- A new vertex is seen, and what it depends on becomes pending. -/
theorem Explored.follow {v : α} {pending seen found : List α}
    (h : g.Explored (g.successors v ++ pending) (v :: seen) found) :
    g.Explored (v :: pending) seen found where
  seen_subset := fun _ hw => h.seen_subset (List.mem_cons_of_mem _ hw)
  pending_subset := List.cons_subset.2 ⟨h.seen_subset List.mem_cons_self,
    fun _ hw => h.pending_subset (List.mem_append_right _ hw)⟩
  reached := fun w hw => by
    rcases h.reached w hw with hseen | ⟨p, hp, hpath⟩
    · rcases List.mem_cons.1 hseen with rfl | hseen
      · exact .inr ⟨w, List.mem_cons_self, .refl⟩
      · exact .inl hseen
    · rcases List.mem_append.1 hp with hp | hp
      · exact .inr ⟨v, List.mem_cons_self, hpath.head (mem_successors.1 hp)⟩
      · exact .inr ⟨p, List.mem_cons_of_mem _ hp, hpath⟩
  closed := fun hseen => h.closed fun w hw x hx => by
    rcases List.mem_cons.1 hw with rfl | hw
    · exact .inr (List.mem_append_left _ (mem_successors.2 hx))
    · rcases hseen w hw x hx with hin | hin
      · exact .inl (List.mem_cons_of_mem _ hin)
      · rcases List.mem_cons.1 hin with rfl | hin
        · exact .inl List.mem_cons_self
        · exact .inr (List.mem_append_right _ hin)

theorem explored {steps : Nat} {pending seen : List α}
    (hsteps : pending.length + g.unexplored seen ≤ steps) :
    g.Explored pending seen (g.explore steps pending seen) := by
  induction steps generalizing pending seen with
  | zero =>
    obtain rfl : pending = [] := List.length_eq_zero_iff.1 (by omega)
    exact explored_nil seen
  | succ steps ih =>
    cases pending with
    | nil => exact explored_nil seen
    | cons v pending =>
      simp only [List.length_cons] at hsteps
      unfold explore
      by_cases hv : v ∈ seen
      · rw [if_pos (List.contains_iff_mem.2 hv)]
        exact (ih (by omega)).drop hv
      · have hexplored := g.unexplored_cons hv
        rw [if_neg (fun h => hv (List.contains_iff_mem.1 h))]
        exact (ih (by rw [List.length_append]; omega)).follow

/-- Reachability is decided. -/
theorem reaches_iff_leads {v w : α} : g.reaches v w = true ↔ g.Leads v w := by
  have hsteps : [v].length + g.unexplored [] ≤ g.edges.length + 1 := by
    have hle : g.unexplored [] ≤ g.edges.length := List.countP_le_length
    rw [List.length_singleton]
    omega
  have h := explored hsteps
  rw [reaches, List.contains_iff_mem, reachable]
  constructor
  · intro hw
    rcases h.reached w hw with hnil | ⟨p, hp, hpath⟩
    · exact absurd hnil List.not_mem_nil
    · rwa [List.mem_singleton.1 hp] at hpath
  · -- What is found is closed under edges and holds the start, so no path leads out of it.
    intro hpath
    induction hpath with
    | refl => exact h.pending_subset List.mem_cons_self
    | tail _ hedge ih => exact h.closed (fun _ hnil => absurd hnil List.not_mem_nil) _ ih _ hedge

end Graph

end PhysicsLab
