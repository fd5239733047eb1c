import PhysicsLab.Proofs.Graph.Layers

/-!
# Layers are heights

A layering puts every vertex into one layer, above all that it depends on and directly above one of
them.  So the layer of a vertex is the length of its longest chain of dependencies, and there is at
most one layering that keeps the order of the vertices.

Peeling gives a layering: what is ready depends on nothing that waits, and what is not ready depends
on something that waits; if that is ready, it is one layer below.

## Main definitions

* `Chain`, `IsHeight` — chains of dependencies, and the length of the longest from a vertex
* `Placed` — a vertex is in a layer
* `Layering` — what is asked of layers

## Main statements

* `Layering.isHeight` — a layer holds the vertices of its height
* `Graph.layering_layers?` — peeling gives a layering
-/

namespace PhysicsLab

variable {α : Type} {r : α → α → Prop} {ids : List α} {layers : List (List α)}
  {v w : α} {k : Nat}

/-! ## §1 Chains -/

/-- A chain of dependencies of some length from a vertex. -/
inductive Chain (r : α → α → Prop) : α → Nat → Prop
  | here (v : α) : Chain r v 0
  | step {v w : α} {n : Nat} (hstep : r v w) (hrest : Chain r w n) : Chain r v (n + 1)

/-- The longest chain from a vertex has some length. -/
structure IsHeight (r : α → α → Prop) (v : α) (n : Nat) : Prop where
  reached : Chain r v n
  bound : ∀ m, Chain r v m → m ≤ n

theorem IsHeight.unique {m n : Nat} (hm : IsHeight r v m) (hn : IsHeight r v n) : m = n :=
  Nat.le_antisymm (hn.bound m hm.reached) (hm.bound n hn.reached)

/-! ## §2 Layerings -/

/-- A vertex is in the layer with a number. -/
def Placed (layers : List (List α)) (k : Nat) (v : α) : Prop :=
  ∃ layer, layers[k]? = some layer ∧ v ∈ layer

@[simp] theorem placed_cons_zero {layer : List α} : Placed (layer :: layers) 0 v ↔ v ∈ layer := by
  simp [Placed]

@[simp] theorem placed_cons_succ {layer : List α} :
    Placed (layer :: layers) (k + 1) v ↔ Placed layers k v := by
  simp [Placed]

/-- The layers of some vertices: every vertex once and in the given order, above everything that it
depends on and, unless it is in the first layer, directly above something that it depends on. -/
structure Layering (r : α → α → Prop) (ids : List α) (layers : List (List α)) : Prop where
  perm : layers.flatten.Perm ids
  ordered : ∀ layer ∈ layers, layer.Sublist ids
  nonempty : ∀ layer ∈ layers, layer ≠ []
  below : ∀ k v w, Placed layers k v → r v w → ∃ j < k, Placed layers j w
  supported : ∀ k v, Placed layers (k + 1) v → ∃ w, r v w ∧ Placed layers k w

theorem exists_placed_iff : (∃ k, Placed layers k v) ↔ v ∈ layers.flatten := by
  rw [List.mem_flatten]
  constructor
  · rintro ⟨k, layer, hlayer, hv⟩
    exact ⟨layer, List.mem_of_getElem? hlayer, hv⟩
  · rintro ⟨layer, hlayer, hv⟩
    obtain ⟨k, hk⟩ := List.getElem?_of_mem hlayer
    exact ⟨k, layer, hk, hv⟩

namespace Layering

theorem exists_placed (h : Layering r ids layers) : (∃ k, Placed layers k v) ↔ v ∈ ids :=
  exists_placed_iff.trans h.perm.mem_iff

/-- A chain from each layer down to the first. -/
theorem chain (h : Layering r ids layers) (hv : Placed layers k v) : Chain r v k := by
  induction k generalizing v with
  | zero => exact .here v
  | succ k ih =>
    obtain ⟨w, hedge, hw⟩ := h.supported k v hv
    exact .step hedge (ih hw)

/-- A chain leads down at least one layer at each step. -/
theorem chain_le (h : Layering r ids layers) {n : Nat} (hchain : Chain r v n)
    (hv : Placed layers k v) : n ≤ k := by
  induction hchain generalizing k with
  | here => exact Nat.zero_le k
  | step hstep _ ih =>
    obtain ⟨j, hj, hw⟩ := h.below k _ _ hv hstep
    exact Nat.lt_of_le_of_lt (ih hw) hj

theorem isHeight (h : Layering r ids layers) (hv : Placed layers k v) : IsHeight r v k :=
  ⟨h.chain hv, fun _ hchain => h.chain_le hchain hv⟩

theorem placed_unique (h : Layering r ids layers) {j : Nat} (hj : Placed layers j v)
    (hk : Placed layers k v) : j = k := (h.isHeight hj).unique (h.isHeight hk)

end Layering

/-! ## §3 Peeling -/

namespace Graph

variable {g : Graph α}

theorem layering_nil : Layering (g.Within []) [] [] where
  perm := .refl _
  ordered := fun _ hlayer => absurd hlayer List.not_mem_nil
  nonempty := fun _ hlayer => absurd hlayer List.not_mem_nil
  below := fun k v w hv => by simp [Placed] at hv
  supported := fun k v hv => by simp [Placed] at hv

variable [DecidableEq α]

/-- A vertex that waits and is not ready depends on one that waits. -/
theorem exists_within_of_unready {waiting : List α} {v : α} (hv : v ∈ g.unready waiting) :
    ∃ w, g.Within waiting v w := by
  obtain ⟨hwaiting, hunready⟩ := List.mem_filter.1 hv
  rw [Bool.not_eq_true', ← Bool.not_eq_true, isReady_iff] at hunready
  push Not at hunready
  obtain ⟨w, hedge, hw⟩ := hunready
  exact ⟨w, hedge, hwaiting, hw⟩

/-- The ready vertices below a layering of the others. -/
theorem layering_cons {waiting : List α} {layers : List (List α)}
    (hready : waiting.filter (g.isReady waiting) ≠ [])
    (h : Layering (g.Within (g.unready waiting)) (g.unready waiting) layers) :
    Layering (g.Within waiting) waiting (waiting.filter (g.isReady waiting) :: layers) where
  perm := by
    rw [List.flatten_cons]
    exact (h.perm.append_left _).trans (List.filter_append_perm _ _)
  ordered := List.forall_mem_cons.2 ⟨List.filter_sublist, fun layer hlayer =>
    (h.ordered layer hlayer).trans List.filter_sublist⟩
  nonempty := List.forall_mem_cons.2 ⟨hready, h.nonempty⟩
  below := by
    intro k v w hv hwithin
    have hunready : v ∈ g.unready waiting := hwithin.mem_unready
    cases k with
    | zero =>
      -- What is ready depends on nothing that waits.
      rw [placed_cons_zero] at hv
      exact absurd hwithin.2.2 (isReady_iff.1 (List.mem_filter.1 hv).2 w hwithin.1)
    | succ k =>
      rw [placed_cons_succ] at hv
      by_cases hw : g.isReady waiting w = true
      · exact ⟨0, Nat.succ_pos k, placed_cons_zero.2 (List.mem_filter.2 ⟨hwithin.2.2, hw⟩)⟩
      · have hw : w ∈ g.unready waiting := List.mem_filter.2 ⟨hwithin.2.2, by simpa using hw⟩
        obtain ⟨j, hj, hplaced⟩ := h.below k v w hv ⟨hwithin.1, hunready, hw⟩
        exact ⟨j + 1, Nat.succ_lt_succ hj, placed_cons_succ.2 hplaced⟩
  supported := by
    intro k v hv
    rw [placed_cons_succ] at hv
    cases k with
    | zero =>
      have hunready : v ∈ g.unready waiting := h.exists_placed.1 ⟨0, hv⟩
      obtain ⟨w, hwithin⟩ := exists_within_of_unready hunready
      refine ⟨w, hwithin, placed_cons_zero.2 (List.mem_filter.2 ⟨hwithin.2.2, ?_⟩)⟩
      -- Were it not ready, it would be in a layer below the first of the others.
      by_contra hw
      have hw : w ∈ g.unready waiting := List.mem_filter.2 ⟨hwithin.2.2, by simpa using hw⟩
      obtain ⟨j, hj, -⟩ := h.below 0 v w hv ⟨hwithin.1, hunready, hw⟩
      exact absurd hj (Nat.not_lt_zero j)
    | succ k =>
      obtain ⟨w, ⟨hedge, hv, hw⟩, hplaced⟩ := h.supported k v hv
      exact ⟨w, ⟨hedge, List.mem_of_mem_filter hv, List.mem_of_mem_filter hw⟩,
        placed_cons_succ.2 hplaced⟩

theorem layering_peel? {bound : Nat} {waiting : List α} {layers : List (List α)}
    (h : g.peel? bound waiting = some layers) : Layering (g.Within waiting) waiting layers := by
  induction bound generalizing waiting layers with
  | zero =>
    cases waiting with
    | nil =>
      obtain rfl : [] = layers := Option.some.inj h
      exact layering_nil
    | cons v rest => cases h
  | succ bound ih =>
    cases waiting with
    | nil =>
      obtain rfl : [] = layers := Option.some.inj h
      exact layering_nil
    | cons v rest =>
      unfold peel? at h
      dsimp only at h
      split at h
      · cases h
      · next hready =>
        obtain ⟨upper, hupper, rfl⟩ := Option.map_eq_some_iff.1 h
        exact layering_cons (by rwa [List.isEmpty_iff] at hready) (ih hupper)

/-- Peeling gives a layering of the graph. -/
theorem layering_layers? (hclosed : g.Closed) {layers : List (List α)}
    (h : g.layers? = some layers) : Layering g.Edge g.vertices layers := by
  have hlayering := layering_peel? h
  rwa [hclosed.within_vertices] at hlayering

end Graph

end PhysicsLab
