import Mathlib.Data.List.Basic
import Mathlib.Data.List.Nodup
import PhysicsLab.Proofs.Graph.Layering

/-!
# Layers in one sweep

The layers of a graph can also be found by passing over its vertices once, in an order in which each
comes after what it depends on.  The level of a vertex is one more than the greatest level found so
far among what it depends on, and what has no level yet is passed over; then every vertex is put
into the layer with the number of its level.

In such an order nothing is passed over, so the levels are the numbers of the layers of any
layering.  Hence it does not matter which of these orders is taken, and every vertex has a layer to
be put into.

## Main definitions

* `Graph.IsTopological` — every vertex comes after what it depends on
* `Graph.levelsAlong`, `Graph.sweep?` — the levels found in an order, and the layers made of them
* `Graph.IsSorting`, `Graph.layersAlong?` — what a topological sort answers, and the layers found
  with it

## Main statements

* `Layering.isTopological` — layer by layer, the vertices are in such an order
* `Layering.sweep?_eq` — the sweep along any of them gives the layering
-/

namespace PhysicsLab

variable {α : Type} {r : α → α → Prop} {ids : List α} {layers : List (List α)}

/-! ## §1 Layers by their numbers -/

/-- What keeps the order of a list and holds what has a property of it, is that part of it. -/
theorem eq_filter_of_sublist {layer : List α} {p : α → Bool} (hnodup : ids.Nodup)
    (hsub : layer.Sublist ids) (hmem : ∀ v, v ∈ layer ↔ v ∈ ids ∧ p v = true) :
    layer = ids.filter p := by
  have hkept : layer.filter p = layer :=
    List.filter_eq_self.2 fun v hv => ((hmem v).1 hv).2
  have hle : layer.Sublist (ids.filter p) := hkept ▸ hsub.filter p
  refine hle.eq_of_length_le ((List.subperm_of_subset (hnodup.filter p) fun v hv => ?_).length_le)
  exact (hmem v).2 (List.mem_filter.1 hv)

theorem Placed.lt_length {k : Nat} {v : α} (h : Placed layers k v) : k < layers.length := by
  obtain ⟨layer, hlayer, -⟩ := h
  exact (List.getElem?_eq_some_iff.1 hlayer).1

theorem mem_flatten_take {k : Nat} {v : α} :
    v ∈ (layers.take k).flatten ↔ ∃ j < k, Placed layers j v := by
  rw [← exists_placed_iff]
  refine exists_congr fun j => ?_
  by_cases hj : j < k <;> simp [Placed, hj]

variable [DecidableEq α]

/-! ## §2 Sweeps -/

namespace Graph

/-- The level of a vertex above the levels found so far: one more than the greatest among what it
depends on. -/
def levelAbove (g : Graph α) (levels : List (α × Nat)) (v : α) : Nat :=
  (((g.successors v).filterMap fun w => levels.lookup w).map (· + 1)).max?.getD 0

/-- The levels of vertices that are taken in some order, the latest first. -/
def levelsAlong (g : Graph α) (order : List α) : List (α × Nat) :=
  order.foldl (fun levels v => (v, g.levelAbove levels v) :: levels) []

/-- Puts a vertex at the end of the layer with the number of its level, if there is one. -/
def placeIn? (levels : List (α × Nat)) (layers : List (List α)) (v : α) :
    Option (List (List α)) :=
  match levels.lookup v with
  | none => some layers
  | some k => if k < layers.length then some (layers.modify k (· ++ [v])) else none

/-- The layers found in one sweep; none if a level has no layer. -/
def sweep? (g : Graph α) (order : List α) : Option (List (List α)) :=
  let levels := g.levelsAlong order
  let depth := ((levels.map Prod.snd).max?.map (· + 1)).getD 0
  g.vertices.foldlM (placeIn? levels) (List.replicate depth [])

/-- Every vertex once, after what it depends on. -/
structure IsTopological (g : Graph α) (order : List α) : Prop where
  perm : order.Perm g.vertices
  later : ∀ v w, g.Edge v w → order.idxOf w < order.idxOf v

/-- What a topological sort answers: such an order, or nothing if there is a cycle. -/
def IsSorting (g : Graph α) : Option (List α) → Prop
  | some order => g.IsTopological order
  | none => ∃ v, g.OnCycle v

/-- The layers found with what a topological sort answers; all vertices in one layer if that is
nothing. -/
def layersAlong? (g : Graph α) : Option (List α) → Option (List (List α))
  | some order => g.sweep? order
  | none => some [g.vertices]

end Graph

/-! ## §3 The level of a vertex -/

/-- The number of the first layer that holds a vertex. -/
def levelIn (layers : List (List α)) (v : α) : Nat := layers.findIdx fun layer => layer.contains v

theorem placed_levelIn {v : α} (hv : v ∈ layers.flatten) : Placed layers (levelIn layers v) v := by
  obtain ⟨layer, hlayer, hv⟩ := List.mem_flatten.1 hv
  have hlt : levelIn layers v < layers.length :=
    List.findIdx_lt_length.2 ⟨layer, hlayer, List.contains_iff_mem.2 hv⟩
  have hcontains : layers[levelIn layers v].contains v = true := List.findIdx_getElem
  exact ⟨_, List.getElem?_eq_getElem hlt, List.contains_iff_mem.1 hcontains⟩

namespace Layering

theorem placed_iff (h : Layering r ids layers) {k : Nat} {v : α} :
    Placed layers k v ↔ v ∈ ids ∧ levelIn layers v = k := by
  constructor
  · intro hv
    have hids : v ∈ ids := h.exists_placed.1 ⟨k, hv⟩
    exact ⟨hids, h.placed_unique (placed_levelIn (h.perm.mem_iff.2 hids)) hv⟩
  · rintro ⟨hv, rfl⟩
    exact placed_levelIn (h.perm.mem_iff.2 hv)

theorem levelIn_lt_length (h : Layering r ids layers) {v : α} (hv : v ∈ ids) :
    levelIn layers v < layers.length := (h.placed_iff.2 ⟨hv, rfl⟩).lt_length

/-- What a vertex depends on has a lower level. -/
theorem levelIn_lt (h : Layering r ids layers) {v w : α} (hv : v ∈ ids) (hstep : r v w) :
    w ∈ ids ∧ levelIn layers w < levelIn layers v := by
  obtain ⟨j, hj, hw⟩ := h.below _ v w (h.placed_iff.2 ⟨hv, rfl⟩) hstep
  obtain ⟨hids, rfl⟩ := h.placed_iff.1 hw
  exact ⟨hids, hj⟩

/-- Each layer holds the vertices of its level. -/
theorem eq_map_filter (h : Layering r ids layers) (hnodup : ids.Nodup) :
    layers = (List.range layers.length).map fun k => ids.filter fun v => levelIn layers v = k := by
  refine List.ext_getElem (by simp) fun k hk _ => ?_
  rw [List.getElem_map, List.getElem_range]
  refine eq_filter_of_sublist hnodup (h.ordered _ (List.getElem_mem hk)) fun v => ?_
  rw [decide_eq_true_iff, ← h.placed_iff, Placed, List.getElem?_eq_getElem hk]
  simp

end Layering

/-! ## §4 Levels along an order -/

variable {g : Graph α} {levels : List (α × Nat)} {order : List α}

/-- With the levels of all that a vertex depends on, its own is found. -/
theorem Layering.levelAbove_eq (h : Layering g.Edge g.vertices layers) {v : α}
    (hv : v ∈ g.vertices)
    (hlevels : ∀ w, g.Edge v w → levels.lookup w = some (levelIn layers w)) :
    g.levelAbove levels v = levelIn layers v := by
  have hfound : ((g.successors v).filterMap fun w => levels.lookup w) =
      (g.successors v).map (levelIn layers) := by
    rw [← List.filterMap_eq_map]
    exact List.filterMap_congr fun w hw => hlevels w (Graph.mem_successors.1 hw)
  rw [Graph.levelAbove, hfound, List.map_map]
  cases hlevel : levelIn layers v with
  | zero =>
    have hnone : g.successors v = [] := by
      refine List.eq_nil_iff_forall_not_mem.2 fun w hw => ?_
      have hless := (h.levelIn_lt hv (Graph.mem_successors.1 hw)).2
      omega
    rw [hnone]
    rfl
  | succ k =>
    obtain ⟨w, hedge, hw⟩ := h.supported k v (h.placed_iff.2 ⟨hv, hlevel⟩)
    have hmax : ((g.successors v).map ((· + 1) ∘ levelIn layers)).max? = some (k + 1) := by
      rw [List.max?_eq_some_iff]
      refine ⟨List.mem_map.2 ⟨w, Graph.mem_successors.2 hedge, ?_⟩, fun n hn => ?_⟩
      · show levelIn layers w + 1 = k + 1
        rw [(h.placed_iff.1 hw).2]
      · obtain ⟨x, hx, rfl⟩ := List.mem_map.1 hn
        have hless := (h.levelIn_lt hv (Graph.mem_successors.1 hx)).2
        show levelIn layers x + 1 ≤ k + 1
        omega
    rw [hmax, Option.getD_some]

/-- In front of a vertex of a topological order stands all that it depends on. -/
theorem Graph.IsTopological.mem_of_edge (h : g.IsTopological order) (hnodup : order.Nodup)
    {done rest : List α} {v w : α} (horder : order = done ++ v :: rest) (hedge : g.Edge v w) :
    w ∈ done := by
  have hlater := h.later v w hedge
  rw [horder] at hlater hnodup
  have hv : v ∉ done := fun hv =>
    (List.nodup_append.1 hnodup).2.2 v hv v List.mem_cons_self rfl
  rw [List.idxOf_append_of_notMem hv, List.idxOf_cons_self] at hlater
  by_contra hw
  rw [List.idxOf_append_of_notMem hw] at hlater
  omega

/-- A topological order leaves no room for a cycle. -/
theorem Graph.IsTopological.acyclic (h : g.IsTopological order) : g.Acyclic := by
  intro v hcycle
  have hless {x y : α} (hpath : Relation.TransGen g.Edge x y) :
      order.idxOf y < order.idxOf x := by
    induction hpath with
    | single hedge => exact h.later _ _ hedge
    | tail _ hedge ih => exact Nat.lt_trans (h.later _ _ hedge) ih
  exact Nat.lt_irrefl _ (hless hcycle)

theorem lookup_reverse_map {f : α → Nat} {done : List α} {v : α} (hv : v ∈ done) :
    (done.map fun v => (v, f v)).reverse.lookup v = some (f v) := by
  rw [← List.map_reverse]
  exact List.lookup_graph f (List.mem_reverse.2 hv)

/-- Along a topological order, every vertex gets its level. -/
theorem Layering.levelsAlong_eq (h : Layering g.Edge g.vertices layers)
    (hnodup : g.vertices.Nodup) (htopological : g.IsTopological order) :
    g.levelsAlong order = (order.map fun v => (v, levelIn layers v)).reverse := by
  suffices hfront : ∀ done rest, order = done ++ rest →
      g.levelsAlong done = (done.map fun v => (v, levelIn layers v)).reverse from
    hfront order [] (List.append_nil order).symm
  -- Induction on the vertices that have been passed over, the last of them first.
  intro done
  induction done using List.reverseRecOn with
  | nil => exact fun _ _ => rfl
  | append_singleton done v ih =>
    intro rest horder
    rw [List.append_assoc, List.singleton_append] at horder
    have hdone := ih _ horder
    have hv : v ∈ g.vertices :=
      htopological.perm.mem_iff.1 (horder ▸ List.mem_append_right _ List.mem_cons_self)
    have hlevel : g.levelAbove (g.levelsAlong done) v = levelIn layers v := by
      refine h.levelAbove_eq hv fun w hedge => ?_
      rw [hdone]
      exact lookup_reverse_map
        (htopological.mem_of_edge (htopological.perm.nodup_iff.2 hnodup) horder hedge)
    have hstep : g.levelsAlong (done ++ [v]) =
        (v, g.levelAbove (g.levelsAlong done) v) :: g.levelsAlong done := by
      rw [Graph.levelsAlong, List.foldl_append]
      rfl
    rw [hstep, hlevel, hdone, List.map_append, List.reverse_append]
    rfl

/-! ## §5 Filling the layers -/

/-- Every vertex finds the layer of its level. -/
theorem foldlM_placeIn? {f : α → Nat} {depth : Nat}
    (hlookup : ∀ v ∈ ids, levels.lookup v = some (f v)) (hdepth : ∀ v ∈ ids, f v < depth) :
    ids.foldlM (Graph.placeIn? levels) (List.replicate depth []) =
      some ((List.range depth).map fun k => ids.filter fun v => f v = k) := by
  induction ids using List.reverseRecOn with
  | nil => simp
  | append_singleton ids v ih =>
    have hprefix := ih (fun w hw => hlookup w (List.mem_append_left _ hw))
      fun w hw => hdepth w (List.mem_append_left _ hw)
    have hv : v ∈ ids ++ [v] := List.mem_append_right _ List.mem_cons_self
    rw [List.foldlM_append, hprefix, Option.bind_eq_bind, Option.bind_some, List.foldlM_cons,
      Graph.placeIn?, hlookup v hv]
    dsimp only
    rw [if_pos (by simpa using hdepth v hv)]
    refine congrArg some (List.ext_getElem (by simp) fun k hk hk' => ?_)
    -- The vertex goes to the end of one layer and leaves the others as they are.
    by_cases hlevel : f v = k <;> simp [List.filter_append, hlevel]

theorem max?_levels (h : Layering r ids layers) {order : List α} (hperm : order.Perm ids) :
    (((order.map fun v => (v, levelIn layers v)).reverse.map Prod.snd).max?.map (· + 1)).getD 0 =
      layers.length := by
  have hsnd : (order.map fun v => (v, levelIn layers v)).reverse.map Prod.snd =
      (order.map (levelIn layers)).reverse := by
    rw [List.map_reverse, List.map_map]
    rfl
  rw [hsnd]
  rcases List.eq_nil_or_concat' layers with rfl | ⟨lower, top, rfl⟩
  · obtain rfl : ids = [] := List.nil_perm.1 h.perm
    obtain rfl : order = [] := List.perm_nil.1 hperm
    rfl
  · -- The topmost layer is not empty, and no level lies above it.
    obtain ⟨v, hv⟩ := List.exists_mem_of_ne_nil _
      (h.nonempty top (by simp))
    have hplaced : Placed (lower ++ [top]) lower.length v := ⟨top, by simp, hv⟩
    obtain ⟨hids, hlevel⟩ := h.placed_iff.1 hplaced
    have hmax : (order.map (levelIn (lower ++ [top]))).reverse.max? = some lower.length := by
      rw [List.max?_eq_some_iff]
      refine ⟨?_, fun n hn => ?_⟩
      · rw [List.mem_reverse, ← hlevel]
        exact List.mem_map_of_mem (hperm.mem_iff.2 hids)
      · obtain ⟨w, hw, rfl⟩ := List.mem_map.1 (List.mem_reverse.1 hn)
        have hlt := h.levelIn_lt_length (hperm.mem_iff.1 hw)
        rw [List.length_append, List.length_singleton] at hlt
        omega
    simp [hmax]

namespace Layering

/-- The sweep along any topological order gives the layering. -/
theorem sweep?_eq (h : Layering g.Edge g.vertices layers) (hnodup : g.vertices.Nodup)
    (htopological : g.IsTopological order) : g.sweep? order = some layers := by
  have hlevels := h.levelsAlong_eq hnodup htopological
  unfold Graph.sweep?
  dsimp only
  rw [hlevels, max?_levels h htopological.perm, foldlM_placeIn? (f := levelIn layers)
    (fun v hv => lookup_reverse_map (htopological.perm.mem_iff.2 hv))
    fun v hv => h.levelIn_lt_length hv]
  exact congrArg some (h.eq_map_filter hnodup).symm

/-- Layer by layer, the vertices are in a topological order. -/
theorem isTopological (h : Layering g.Edge g.vertices layers) (hclosed : g.Closed) :
    g.IsTopological layers.flatten where
  perm := h.perm
  later := by
    intro v w hedge
    obtain ⟨hv, hw⟩ := hclosed v w hedge
    have hlt := (h.levelIn_lt hv hedge).2
    -- What the vertex depends on is in front of its layer, and the vertex is not.
    have hsplit : layers.flatten = (layers.take (levelIn layers v)).flatten ++
        (layers.drop (levelIn layers v)).flatten := by
      rw [← List.flatten_append, List.take_append_drop]
    have hwin : w ∈ (layers.take (levelIn layers v)).flatten :=
      mem_flatten_take.2 ⟨_, hlt, h.placed_iff.2 ⟨hw, rfl⟩⟩
    have hvout : v ∉ (layers.take (levelIn layers v)).flatten := by
      rw [mem_flatten_take]
      rintro ⟨j, hj, hplaced⟩
      exact absurd (h.placed_iff.1 hplaced).2 (Nat.ne_of_gt hj)
    rw [hsplit, List.idxOf_append_of_mem hwin, List.idxOf_append_of_notMem hvout]
    exact Nat.lt_of_lt_of_le (List.idxOf_lt_length_iff.2 hwin) (Nat.le_add_right _ _)

end Layering

end PhysicsLab
