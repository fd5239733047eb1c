import Mathlib.Data.List.Nodup
import PhysicsLab.Proofs.Graph.Layers

/-!
# Depth-first search names a vertex on a cycle

Where a search is among the vertices discovered and not left yet, a path leads from each of them to
every pending vertex.  When a vertex is left, what it depends on has been left before or is one of
these, and then leads back to it.  So an edge that runs backwards in the order of leaving lies on a
cycle, and without such an edge that order ranks the vertices.

## Main definitions

* `Graph.Ordered` — an edge leads on in a list of vertices, or lies on a cycle
* `Graph.Settled` — what holds of the vertices left
* `Graph.Searching` — what holds of the state of a search, given what is pending
* `Graph.Searched` — what a search adds to its state

## Main statements

* `Graph.searched`
* `Graph.cycleVertex?_spec`
-/

namespace PhysicsLab

namespace Graph

open Relation

variable {α : Type} {g : Graph α}

/-! ## §1 The order of leaving -/

/-- In a list of vertices, the latest left first, what a vertex depends on comes later in the list,
or leads back to the vertex. -/
def Ordered (g : Graph α) : List α → Prop
  | [] => True
  | v :: rest => (∀ w, g.Edge v w → w ∈ rest ∨ g.Leads w v) ∧ g.Ordered rest

theorem Ordered.edge {left : List α} (h : g.Ordered left) {v w : α} (hv : v ∈ left)
    (hedge : g.Edge v w) : w ∈ left ∨ g.Leads w v := by
  induction left with
  | nil => exact absurd hv List.not_mem_nil
  | cons x rest ih =>
    obtain ⟨hx, hrest⟩ := h
    rcases List.mem_cons.1 hv with rfl | hv
    · exact (hx w hedge).imp_left (List.mem_cons_of_mem _)
    · exact (ih hrest hv).imp_left (List.mem_cons_of_mem _)

/-! ## §2 What holds of a search -/

/-- What has been left was discovered, is left once, and is in order. -/
structure Settled (g : Graph α) (s : Search α) : Prop where
  left_subset : s.left ⊆ s.seen
  distinct : s.left.Nodup
  ordered : g.Ordered s.left

/-- What holds of a search, given what is pending: what has been discovered and not left leads to
everything pending. -/
structure Searching (g : Graph α) (pending : List α) (s : Search α) : Prop extends
    Settled g s where
  open_leads : ∀ v ∈ s.seen, v ∉ s.left → ∀ p ∈ pending, g.Leads v p

/-- What a search adds: it discovers all that is pending, and leaves exactly what it discovers. -/
structure Searched (g : Graph α) (pending : List α) (before after : Search α) : Prop extends
    Settled g after where
  seen_grows : before.seen ⊆ after.seen
  left_grows : before.left ⊆ after.left
  pending_seen : pending ⊆ after.seen
  new_left : ∀ v ∈ after.seen, v ∈ before.seen ∨ v ∈ after.left
  left_new : ∀ v ∈ after.left, v ∈ before.left ∨ v ∉ before.seen

theorem Searching.done {s : Search α} (h : g.Searching [] s) : g.Searched [] s s where
  toSettled := h.toSettled
  seen_grows := List.Subset.refl _
  left_grows := List.Subset.refl _
  pending_seen := List.nil_subset _
  new_left := fun _ hv => .inl hv
  left_new := fun _ hv => .inl hv

/-- Fewer vertices are pending. -/
theorem Searching.tail {v : α} {pending : List α} {s : Search α}
    (h : g.Searching (v :: pending) s) : g.Searching pending s where
  toSettled := h.toSettled
  open_leads := fun w hw hopen p hp => h.open_leads w hw hopen p (List.mem_cons_of_mem _ hp)

/-- A pending vertex that has been discovered is passed over. -/
theorem Searched.pass {v : α} {pending : List α} {before after : Search α} (hv : v ∈ before.seen)
    (h : g.Searched pending before after) : g.Searched (v :: pending) before after :=
  { h with pending_seen := List.cons_subset.2 ⟨h.seen_grows hv, h.pending_seen⟩ }

/-! ## §3 The search -/

variable [DecidableEq α]

/-- A vertex is discovered, and what it depends on becomes pending. -/
theorem Searching.discover {v : α} {pending : List α} {s : Search α}
    (h : g.Searching (v :: pending) s) (hv : v ∉ s.seen) :
    g.Searching (g.successors v) { s with seen := v :: s.seen } where
  left_subset := List.Subset.trans h.left_subset (List.subset_cons_self v s.seen)
  distinct := h.distinct
  ordered := h.ordered
  open_leads := by
    intro w hw hopen p hp
    have hedge : g.Edge v p := mem_successors.1 hp
    rcases List.mem_cons.1 hw with rfl | hw
    · exact .single hedge
    · exact (h.open_leads w hw hopen v List.mem_cons_self).tail hedge

/-- A vertex is left after all that was found from it: what it depends on has been left before, or
was open when the vertex was discovered and leads to it. -/
theorem Searching.leave {v : α} {pending : List α} {s below : Search α}
    (h : g.Searching (v :: pending) s) (hv : v ∉ s.seen)
    (hbelow : g.Searched (g.successors v) { s with seen := v :: s.seen } below) :
    v ∉ below.left ∧ g.Searching pending { below with left := v :: below.left } := by
  have hout : v ∉ below.left := fun hin => by
    rcases hbelow.left_new v hin with hold | hnew
    · exact hv (h.left_subset hold)
    · exact hnew List.mem_cons_self
  refine ⟨hout, ?_⟩
  exact {
    left_subset := List.cons_subset.2
      ⟨hbelow.seen_grows List.mem_cons_self, hbelow.left_subset⟩
    distinct := List.nodup_cons.2 ⟨hout, hbelow.distinct⟩
    ordered := by
      refine ⟨fun w hedge => ?_, hbelow.ordered⟩
      -- What the vertex depends on has been discovered: before it, as itself, or below it.
      rcases hbelow.new_left w (hbelow.pending_seen (mem_successors.2 hedge)) with hseen | hleft
      · rcases List.mem_cons.1 hseen with rfl | hseen
        · exact .inr .refl
        · by_cases hleft : w ∈ s.left
          · exact .inl (hbelow.left_grows hleft)
          · exact .inr (h.open_leads w hseen hleft v List.mem_cons_self)
      · exact .inl hleft
    open_leads := by
      intro w hw hopen p hp
      obtain ⟨hne, hopen⟩ := List.ne_and_not_mem_of_not_mem_cons hopen
      have hseen := (hbelow.new_left w hw).resolve_right hopen
      exact h.open_leads w ((List.mem_cons.1 hseen).resolve_left hne)
        (fun hleft => hopen (hbelow.left_grows hleft)) p (List.mem_cons_of_mem _ hp) }

/-- What is found from a vertex and what is found after it has been left make up one search. -/
theorem Searched.append {v : α} {pending : List α} {s below after : Search α}
    (hv : v ∉ s.seen)
    (hbelow : g.Searched (g.successors v) { s with seen := v :: s.seen } below)
    (h : g.Searched pending { below with left := v :: below.left } after) :
    g.Searched (v :: pending) s after where
  toSettled := h.toSettled
  seen_grows := fun _ hw => h.seen_grows (hbelow.seen_grows (List.mem_cons_of_mem _ hw))
  left_grows := fun _ hw => h.left_grows (List.mem_cons_of_mem _ (hbelow.left_grows hw))
  pending_seen := List.cons_subset.2
    ⟨h.seen_grows (hbelow.seen_grows List.mem_cons_self), h.pending_seen⟩
  new_left := fun w hw => by
    rcases h.new_left w hw with hw | hw
    · rcases hbelow.new_left w hw with hw | hw
      · rcases List.mem_cons.1 hw with rfl | hw
        · exact .inr (h.left_grows List.mem_cons_self)
        · exact .inl hw
      · exact .inr (h.left_grows (List.mem_cons_of_mem _ hw))
    · exact .inr hw
  left_new := fun w hw => by
    have hless : w ∉ v :: s.seen → w ∉ s.seen := fun hout hin =>
      hout (List.mem_cons_of_mem _ hin)
    rcases h.left_new w hw with hw | hw
    · rcases List.mem_cons.1 hw with rfl | hw
      · exact .inr hv
      · exact (hbelow.left_new w hw).imp_right hless
    · exact .inr fun hin => hw (hbelow.seen_grows (List.mem_cons_of_mem _ hin))

/-- Seeing more leaves less unexplored. -/
theorem unexplored_antitone {seen found : List α} (h : seen ⊆ found) :
    g.unexplored found ≤ g.unexplored seen := by
  refine List.countP_mono_left fun e _ hout => ?_
  rw [Bool.not_eq_true', ← Bool.not_eq_true, List.contains_iff_mem] at hout ⊢
  exact fun hin => hout (h hin)

theorem searched {steps : Nat} {pending : List α} {s : Search α} (h : g.Searching pending s)
    (hsteps : pending.length + g.unexplored s.seen ≤ steps) :
    g.Searched pending s (g.searchFrom steps pending s) := by
  -- Both searches that a vertex starts have a step less: the one below it gives up the edges of the
  -- vertex, and the one after it the vertex itself.
  induction steps generalizing pending s with
  | zero =>
    obtain rfl : pending = [] := List.length_eq_zero_iff.1 (by omega)
    exact h.done
  | succ steps ih =>
    cases pending with
    | nil => exact h.done
    | cons v pending =>
      rw [List.length_cons] at hsteps
      unfold searchFrom
      by_cases hv : v ∈ s.seen
      · rw [if_pos (List.contains_iff_mem.2 hv)]
        exact (ih h.tail (by omega)).pass hv
      · rw [if_neg fun hin => hv (List.contains_iff_mem.1 hin)]
        have hexplored := g.unexplored_cons hv
        have hbelow := ih (h.discover hv) (by dsimp only; omega)
        have hless := g.unexplored_antitone hbelow.seen_grows
        exact hbelow.append hv (ih (h.leave hv hbelow).2 (by dsimp only at hless ⊢; omega))

/-- The search of the whole graph. -/
theorem searched_search : g.Searched g.vertices {} g.search := by
  have hle : g.unexplored [] ≤ g.edges.length := List.countP_le_length
  have hstart : g.Settled {} := ⟨List.nil_subset _, List.nodup_nil, trivial⟩
  refine searched ⟨hstart, ?_⟩ (by dsimp only; omega)
  exact fun _ hv => absurd hv List.not_mem_nil

/-! ## §4 The vertex named -/

/-- A vertex named for an edge that runs backwards lies on a cycle. -/
theorem Ordered.onCycle {left : List α} (h : g.Ordered left) (hdistinct : left.Nodup) {v : α}
    (hback : g.backward? left = some v) : g.OnCycle v := by
  induction left with
  | nil => cases hback
  | cons x rest ih =>
    obtain ⟨hx, hrest⟩ := List.nodup_cons.1 hdistinct
    unfold backward? at hback
    split at hback
    · next w hfind =>
      obtain rfl : w = v := Option.some.inj hback
      have hedge : g.Edge w x := mem_predecessors.1 (List.mem_of_find?_eq_some hfind)
      have hw : w ∈ rest := by simpa using List.find?_some hfind
      exact .head' hedge ((h.2.edge hw hedge).resolve_left hx)
    · exact ih h.2 hrest hback

/-- No edge runs backwards exactly if no vertex is depended on by a later one. -/
theorem backward?_eq_none_iff {left : List α} :
    g.backward? left = none ↔ left.Pairwise fun v w => ¬ g.Edge w v := by
  induction left with
  | nil => simp [backward?]
  | cons v rest ih =>
    unfold backward?
    rw [List.pairwise_cons]
    split
    · next w hfind =>
      have hedge : g.Edge w v := mem_predecessors.1 (List.mem_of_find?_eq_some hfind)
      have hw : w ∈ rest := by simpa using List.find?_some hfind
      simp only [reduceCtorEq, false_iff]
      exact fun h => h.1 w hw hedge
    · next hfind =>
      rw [ih, iff_and_self]
      intro _ w hw hedge
      have hout := List.find?_eq_none.1 hfind w (mem_predecessors.2 hedge)
      exact hout (List.contains_iff_mem.2 hw)

/-- Where no edge runs backwards, edges between different vertices run forwards. -/
theorem idxOf_lt_idxOf {left : List α} (hback : g.backward? left = none) {v w : α}
    (hv : v ∈ left) (hw : w ∈ left) (hne : v ≠ w) (hedge : g.Edge v w) :
    left.idxOf v < left.idxOf w := by
  rw [backward?_eq_none_iff, List.pairwise_iff_getElem] at hback
  have hlt {x : α} (hx : x ∈ left) : left.idxOf x < left.length := List.idxOf_lt_length_iff.2 hx
  rcases Nat.lt_trichotomy (left.idxOf v) (left.idxOf w) with hless | heq | hmore
  · exact hless
  · exact absurd ((List.idxOf_inj hv).1 heq) hne
  · have hnone := hback _ _ (hlt hw) (hlt hv) hmore
    rw [List.getElem_idxOf, List.getElem_idxOf] at hnone
    exact absurd hedge hnone

/-- A vertex that is named lies on a cycle; without one, the graph has no cycle. -/
theorem cycleVertex?_spec (h : g.Closed) :
    (∀ v, g.cycleVertex? = some v → g.OnCycle v) ∧ (g.cycleVertex? = none → g.Acyclic) := by
  have hsearch := g.searched_search
  unfold cycleVertex?
  split
  · next v hfind =>
    have hself : g.Edge v v := by simpa [mem_successors] using List.find?_some hfind
    refine ⟨?_, nofun⟩
    rintro w hw
    obtain rfl := Option.some.inj hw
    exact .single hself
  · next hfind =>
    refine ⟨fun v => hsearch.ordered.onCycle hsearch.distinct, fun hback v hcycle => ?_⟩
    have hleft {x : α} (hx : x ∈ g.vertices) : x ∈ g.search.left :=
      (hsearch.new_left x (hsearch.pending_seen hx)).resolve_left List.not_mem_nil
    -- Without loops and edges that run backwards, places in the order grow along every path.
    have hrank {x y : α} (hedge : g.Edge x y) :
        g.search.left.idxOf x < g.search.left.idxOf y := by
      obtain ⟨hx, hy⟩ := h x y hedge
      refine idxOf_lt_idxOf hback (hleft hx) (hleft hy) ?_ hedge
      rintro rfl
      have hnone := List.find?_eq_none.1 hfind x
        (List.mem_reverse.2 (hsearch.pending_seen hx))
      exact hnone (List.contains_iff_mem.2 (mem_successors.2 hedge))
    have hpath {x y : α} (hpath : TransGen g.Edge x y) :
        g.search.left.idxOf x < g.search.left.idxOf y := by
      induction hpath with
      | single hedge => exact hrank hedge
      | tail _ hedge ih => exact Nat.lt_trans ih (hrank hedge)
    exact Nat.lt_irrefl _ (hpath hcycle)

end Graph

end PhysicsLab
