import Mathlib.Data.List.Flatten
import Mathlib.Data.List.Nodup
import PhysicsLab.Library.Resolution
import PhysicsLab.Proofs.Graph.Reachability

/-!
# Resolutions are closed and acyclic

A resolution starts with the selected blocks and holds exactly what they build on, also where
declared dependencies run in circles.  Its edges are declared dependencies and form no cycle.  An
edge that was refused loses nothing: its target leads back to the block over registered edges, so it
has been taken from the queue before.

## Main definitions

* `Library.BuildsOn` — a declared dependency on another block of the library
* `Linked` — what registering the dependencies of one block does
* `Resolving` — what holds of the queue and of the resolution at every step

## Main statements

* `Library.resolve_spec`
-/

namespace PhysicsLab

open Relation

/-! ## §1 Looking up blocks -/

namespace Library

variable {l : Library}

/-- Blocks of a library with the same id are the same. -/
theorem eq_of_id_eq {b c : KnowledgeBlock} (hb : b ∈ l.blocks) (hc : c ∈ l.blocks)
    (h : b.id = c.id) : b = c := List.inj_on_of_nodup_map l.distinct hb hc h

theorem block?_eq_some_iff {id : String} {b : KnowledgeBlock} :
    l.block? id = some b ↔ b ∈ l.blocks ∧ b.id = id := by
  unfold block?
  constructor
  · intro h
    exact ⟨List.mem_of_find?_eq_some h, by simpa using List.find?_some h⟩
  · rintro ⟨hb, rfl⟩
    cases hfind : l.blocks.find? fun c => c.id == b.id with
    | none => simpa using List.find?_eq_none.1 hfind b hb
    | some c =>
      have hid : c.id = b.id := by simpa using List.find?_some hfind
      rw [eq_of_id_eq (List.mem_of_find?_eq_some hfind) hb hid]

/-- A block declares a dependency on another block, and that one is in the library. -/
def BuildsOn (l : Library) (id dependency : String) : Prop :=
  dependency ≠ id ∧ (∃ b, l.block? id = some b ∧ dependency ∈ b.dependencies) ∧
    (l.block? dependency).isSome = true

end Library

namespace Resolution

/-- The ids of the blocks. -/
def ids (r : Resolution) : List String := r.blocks.map KnowledgeBlock.id

/-- The graph of the registered edges. -/
def graph (r : Resolution) : Graph String := ⟨r.edges.map Prod.fst, r.edges⟩

theorem has_iff {r : Resolution} {id : String} : r.has id = true ↔ id ∈ r.ids := by
  simp [has, ids]

end Resolution

/-! ## §2 Registering the dependencies of a block -/

/-- The graph of some edges. -/
abbrev graphOf (edges : List (String × String)) : Graph String := ⟨edges.map Prod.fst, edges⟩

theorem Library.linkTarget?_eq_some_iff {l : Library} {edges : List (String × String)}
    {id dependency : String} {target : KnowledgeBlock} :
    l.linkTarget? edges id dependency = some target ↔
      dependency ≠ id ∧ l.block? dependency = some target ∧
        ¬ (graphOf edges).Leads target.id id := by
  unfold linkTarget?
  split
  · next heq => simp [heq]
  · next hne =>
    rw [Option.filter_eq_some_iff, Bool.not_eq_true', ← Bool.not_eq_true, Graph.reaches_iff_leads]
    simp [hne]

/-- Registering dependencies of a block adds edges from it to the targets, and closes no cycle.  A
dependency without an edge leads back to the block. -/
structure Linked (l : Library) (id : String) (dependencies : List String)
    (before after : List (String × String)) (targets : List KnowledgeBlock) : Prop where
  edges_eq : after = before ++ targets.map fun t => (id, t.id)
  targets_spec : ∀ t ∈ targets, t.id ∈ dependencies ∧ t.id ≠ id ∧ t ∈ l.blocks
  length_le : targets.length ≤ dependencies.length
  acyclic : (graphOf before).Acyclic → (graphOf after).Acyclic
  covered : ∀ d ∈ dependencies, d ≠ id → (l.block? d).isSome = true →
    (id, d) ∈ after ∨ (graphOf after).Leads d id

theorem linked_nil {l : Library} {id : String} {edges : List (String × String)} :
    Linked l id [] edges edges [] where
  edges_eq := (List.append_nil edges).symm
  targets_spec := fun _ ht => absurd ht List.not_mem_nil
  length_le := Nat.le_refl _
  acyclic := fun h => h
  covered := fun _ hd => absurd hd List.not_mem_nil

/-- A dependency that no edge is registered for. -/
theorem Linked.refuse {l : Library} {id dependency : String} {dependencies : List String}
    {before after : List (String × String)} {targets : List KnowledgeBlock}
    (hnone : l.linkTarget? before id dependency = none)
    (h : Linked l id dependencies before after targets) :
    Linked l id (dependency :: dependencies) before after targets where
  edges_eq := h.edges_eq
  targets_spec := fun t ht =>
    let ⟨hdep, hrest⟩ := h.targets_spec t ht
    ⟨List.mem_cons_of_mem _ hdep, hrest⟩
  length_le := Nat.le_succ_of_le h.length_le
  acyclic := h.acyclic
  covered := by
    intro d hd hne hsome
    rcases List.mem_cons.1 hd with rfl | hd
    · obtain ⟨target, htarget⟩ := Option.isSome_iff_exists.1 hsome
      have hid := (Library.block?_eq_some_iff.1 htarget).2
      -- The dependency is another block of the library, so the edge would have closed a cycle.
      have hback : (graphOf before).Leads target.id id := by
        by_contra hback
        have := Library.linkTarget?_eq_some_iff.2 ⟨hne, htarget, hback⟩
        rw [hnone] at this
        cases this
      rw [hid] at hback
      refine .inr (hback.mono fun e he => ?_)
      rw [h.edges_eq]
      exact List.mem_append_left _ he
    · exact h.covered d hd hne hsome

/-- A dependency that an edge is registered for. -/
theorem Linked.register {l : Library} {id dependency : String} {dependencies : List String}
    {before after : List (String × String)} {target : KnowledgeBlock}
    {targets : List KnowledgeBlock} (hsome : l.linkTarget? before id dependency = some target)
    (h : Linked l id dependencies (before ++ [(id, target.id)]) after targets) :
    Linked l id (dependency :: dependencies) before after (target :: targets) := by
  obtain ⟨hne, htarget, hback⟩ := Library.linkTarget?_eq_some_iff.1 hsome
  obtain ⟨hmem, hid⟩ := Library.block?_eq_some_iff.1 htarget
  subst hid
  have hafter : after = before ++ (target :: targets).map fun t => (id, t.id) := by
    rw [h.edges_eq]
    simp
  exact {
    edges_eq := hafter
    targets_spec := by
      intro t ht
      rcases List.mem_cons.1 ht with rfl | ht
      · exact ⟨List.mem_cons_self, hne, hmem⟩
      · obtain ⟨hdep, hrest⟩ := h.targets_spec t ht
        exact ⟨List.mem_cons_of_mem _ hdep, hrest⟩
    length_le := Nat.succ_le_succ h.length_le
    acyclic := fun hacyclic => h.acyclic (Graph.acyclic_snoc hacyclic hback)
    covered := by
      intro d hd hne hexists
      rcases List.mem_cons.1 hd with rfl | hd
      · refine .inl ?_
        rw [hafter]
        exact List.mem_append_right _ List.mem_cons_self
      · exact h.covered d hd hne hexists }

theorem Library.linked (l : Library) (id : String) (dependencies : List String)
    (edges : List (String × String)) :
    Linked l id dependencies edges (l.link id dependencies edges).1
      (l.link id dependencies edges).2 := by
  induction dependencies generalizing edges with
  | nil => exact linked_nil
  | cons dependency rest ih =>
    unfold link
    split
    · next hnone => exact (ih edges).refuse hnone
    · next target hsome => exact (ih _).register hsome

/-! ## §3 Working off the queue -/

/-- What holds of the queue and of the resolution at every step: all blocks come from the library
and are reached from the selected ones, edges are declared dependencies from blocks taken to blocks
taken or waiting, and what is declared by a block taken is covered. -/
structure Resolving (l : Library) (selected queue : List KnowledgeBlock) (r : Resolution) :
    Prop where
  distinct : r.ids.Nodup
  blocks_mem : ∀ b ∈ r.blocks, b ∈ l.blocks
  queue_mem : ∀ b ∈ queue, b ∈ l.blocks
  reached : ∀ b, b ∈ r.blocks ∨ b ∈ queue → ∃ s ∈ selected, ReflTransGen l.BuildsOn s.id b.id
  source_mem : ∀ a d, (a, d) ∈ r.edges → ∃ b ∈ r.blocks, b.id = a ∧ d ∈ b.dependencies
  target_mem : ∀ a d, (a, d) ∈ r.edges → d ∈ r.ids ∨ d ∈ queue.map KnowledgeBlock.id
  acyclic : r.graph.Acyclic
  covered : ∀ b ∈ r.blocks, ∀ d ∈ b.dependencies, d ≠ b.id → (l.block? d).isSome = true →
    (b.id, d) ∈ r.edges ∨ r.graph.Leads d b.id

variable {l : Library} {selected queue : List KnowledgeBlock} {r : Resolution}

theorem resolving_start (h : ∀ b ∈ selected, b ∈ l.blocks) : Resolving l selected selected {} where
  distinct := List.nodup_nil
  blocks_mem := fun _ hb => absurd hb List.not_mem_nil
  queue_mem := h
  reached := fun b hb => ⟨b, hb.resolve_left List.not_mem_nil, .refl⟩
  source_mem := fun _ _ he => absurd he List.not_mem_nil
  target_mem := fun _ _ he => absurd he List.not_mem_nil
  acyclic := fun v hcycle => by
    obtain ⟨w, hedge, -⟩ := TransGen.head'_iff.1 hcycle
    exact absurd hedge List.not_mem_nil
  covered := fun _ hb => absurd hb List.not_mem_nil

/-- A block that has been taken is passed over. -/
theorem Resolving.pass {b : KnowledgeBlock} (h : Resolving l selected (b :: queue) r)
    (hb : r.has b.id = true) : Resolving l selected queue r where
  distinct := h.distinct
  blocks_mem := h.blocks_mem
  queue_mem := fun c hc => h.queue_mem c (List.mem_cons_of_mem _ hc)
  reached := fun c hc => h.reached c (hc.imp_right (List.mem_cons_of_mem _))
  source_mem := h.source_mem
  target_mem := fun a d he => by
    rcases h.target_mem a d he with hd | hd
    · exact .inl hd
    · rcases List.mem_cons.1 hd with rfl | hd
      · exact .inl (Resolution.has_iff.1 hb)
      · exact .inr hd
  acyclic := h.acyclic
  covered := h.covered

/-- A new block is taken, and the targets of its edges wait at the end of the queue. -/
theorem Resolving.take {b : KnowledgeBlock} {edges : List (String × String)}
    {targets : List KnowledgeBlock} (h : Resolving l selected (b :: queue) r)
    (hb : ¬ r.has b.id = true) (hlink : Linked l b.id b.dependencies r.edges edges targets) :
    Resolving l selected (queue ++ targets) ⟨r.blocks ++ [b], edges⟩ := by
  have hmem : b ∈ l.blocks := h.queue_mem b List.mem_cons_self
  have hold : ∀ e ∈ r.edges, e ∈ edges := fun e he => by
    rw [hlink.edges_eq]
    exact List.mem_append_left _ he
  have hedge : ∀ a d, (a, d) ∈ edges → (a, d) ∈ r.edges ∨ a = b.id ∧ ∃ t ∈ targets, t.id = d := by
    intro a d he
    rw [hlink.edges_eq] at he
    rcases List.mem_append.1 he with he | he
    · exact .inl he
    · obtain ⟨t, ht, heq⟩ := List.mem_map.1 he
      obtain ⟨rfl, rfl⟩ := Prod.mk.inj heq
      exact .inr ⟨rfl, t, ht, rfl⟩
  exact {
    distinct := by
      rw [Resolution.ids, List.map_append, List.nodup_append]
      refine ⟨h.distinct, List.nodup_singleton _, ?_⟩
      rintro a ha _ hsingle rfl
      rw [List.map_singleton, List.mem_singleton] at hsingle
      exact hb (Resolution.has_iff.2 (hsingle ▸ ha))
    blocks_mem := by
      intro c hc
      rcases List.mem_append.1 hc with hc | hc
      · exact h.blocks_mem c hc
      · exact List.mem_singleton.1 hc ▸ hmem
    queue_mem := by
      intro c hc
      rcases List.mem_append.1 hc with hc | hc
      · exact h.queue_mem c (List.mem_cons_of_mem _ hc)
      · exact (hlink.targets_spec c hc).2.2
    reached := by
      obtain ⟨s, hs, hpath⟩ := h.reached b (.inr List.mem_cons_self)
      intro c hc
      rcases hc with hc | hc
      · rcases List.mem_append.1 hc with hc | hc
        · exact h.reached c (.inl hc)
        · rw [List.mem_singleton.1 hc]
          exact ⟨s, hs, hpath⟩
      · rcases List.mem_append.1 hc with hc | hc
        · exact h.reached c (.inr (List.mem_cons_of_mem _ hc))
        · obtain ⟨hdep, hne, hin⟩ := hlink.targets_spec c hc
          have hbuilds : l.BuildsOn b.id c.id :=
            ⟨hne, ⟨b, Library.block?_eq_some_iff.2 ⟨hmem, rfl⟩, hdep⟩,
              Option.isSome_iff_exists.2 ⟨c, Library.block?_eq_some_iff.2 ⟨hin, rfl⟩⟩⟩
          exact ⟨s, hs, hpath.tail hbuilds⟩
    source_mem := by
      intro a d he
      rcases hedge a d he with he | ⟨rfl, t, ht, rfl⟩
      · obtain ⟨c, hc, hspec⟩ := h.source_mem a d he
        exact ⟨c, List.mem_append_left _ hc, hspec⟩
      · exact ⟨b, List.mem_append_right _ List.mem_cons_self, rfl, (hlink.targets_spec t ht).1⟩
    target_mem := by
      intro a d he
      rw [Resolution.ids, List.map_append, List.map_append, List.mem_append, List.mem_append]
      rcases hedge a d he with he | ⟨rfl, t, ht, rfl⟩
      · rcases h.target_mem a d he with hd | hd
        · exact .inl (.inl hd)
        · rcases List.mem_cons.1 hd with rfl | hd
          · exact .inl (.inr List.mem_cons_self)
          · exact .inr (.inl hd)
      · exact .inr (.inr (List.mem_map_of_mem ht))
    acyclic := hlink.acyclic h.acyclic
    covered := by
      intro c hc d hd hne hsome
      rcases List.mem_append.1 hc with hc | hc
      · rcases h.covered c hc d hd hne hsome with he | hpath
        · exact .inl (hold _ he)
        · exact .inr (Graph.Leads.mono hpath hold)
      · obtain rfl := List.mem_singleton.1 hc
        exact hlink.covered d hd hne hsome }

/-! ### The number of steps -/

/-- The blocks of the library that have not been taken. -/
def untaken (l : Library) (r : Resolution) : List KnowledgeBlock :=
  l.blocks.filter fun b => !r.has b.id

/-- The number of dependencies that some blocks declare. -/
def declared (blocks : List KnowledgeBlock) : Nat :=
  (blocks.flatMap KnowledgeBlock.dependencies).length

theorem has_append {b : KnowledgeBlock} {edges : List (String × String)} {id : String} :
    (Resolution.mk (r.blocks ++ [b]) edges).has id = (r.has id || b.id == id) := by
  simp [Resolution.has]

theorem untaken_append {b : KnowledgeBlock} {edges : List (String × String)} :
    untaken l ⟨r.blocks ++ [b], edges⟩ = (untaken l r).filter fun c => !(b.id == c.id) := by
  simp only [untaken, has_append, List.filter_filter, Bool.not_or, Bool.and_comm]

/-- Taking a block takes its dependencies off those still declared. -/
theorem declared_untaken_append {b : KnowledgeBlock} {edges : List (String × String)}
    (hmem : b ∈ l.blocks) (hb : ¬ r.has b.id = true) :
    declared (untaken l ⟨r.blocks ++ [b], edges⟩) + b.dependencies.length ≤
      declared (untaken l r) := by
  have hin : b ∈ untaken l r := List.mem_filter.2 ⟨hmem, by simpa using hb⟩
  have hsub : List.Sublist ((untaken l r).filter fun c => !(b.id == c.id))
      ((untaken l r).erase b) := by
    have hout : b ∉ (untaken l r).filter fun c => !(b.id == c.id) := by simp
    have herase := (List.filter_sublist (p := fun c => !(b.id == c.id)) (l := untaken l r)).erase b
    rwa [List.erase_of_not_mem hout] at herase
  have hle := (hsub.flatMap KnowledgeBlock.dependencies).length_le
  have hsplit := ((List.perm_cons_erase hin).flatMap_right KnowledgeBlock.dependencies).length_eq
  rw [List.flatMap_cons, List.length_append] at hsplit
  rw [untaken_append, declared, declared]
  omega

theorem Library.resolveFrom_pass {b : KnowledgeBlock} {steps : Nat} (hb : r.has b.id = true) :
    l.resolveFrom (steps + 1) (b :: queue) r = l.resolveFrom steps queue r := by
  rw [resolveFrom, if_pos hb]

theorem Library.resolveFrom_take {b : KnowledgeBlock} {steps : Nat} (hb : ¬ r.has b.id = true) :
    l.resolveFrom (steps + 1) (b :: queue) r =
      l.resolveFrom steps (queue ++ (l.link b.id b.dependencies r.edges).2)
        ⟨r.blocks ++ [b], (l.link b.id b.dependencies r.edges).1⟩ := by
  rw [resolveFrom, if_neg hb]

/-- With enough steps, the queue is worked off. -/
theorem Resolving.resolveFrom {steps : Nat} (h : Resolving l selected queue r)
    (hsteps : queue.length + declared (untaken l r) ≤ steps) :
    Resolving l selected [] (l.resolveFrom steps queue r) := by
  -- A block that is taken puts no more targets into the queue than it declares dependencies, and
  -- it is not taken again.
  induction steps generalizing queue r with
  | zero =>
    obtain rfl : queue = [] := List.length_eq_zero_iff.1 (by omega)
    exact h
  | succ steps ih =>
    cases queue with
    | nil => exact h
    | cons b queue =>
      rw [List.length_cons] at hsteps
      by_cases hb : r.has b.id = true
      · rw [Library.resolveFrom_pass hb]
        exact ih (h.pass hb) (by omega)
      · have hlink := l.linked b.id b.dependencies r.edges
        have hleft : declared (untaken l ⟨_, (l.link b.id b.dependencies r.edges).1⟩) +
            b.dependencies.length ≤ declared (untaken l r) :=
          declared_untaken_append (h.queue_mem b List.mem_cons_self) hb
        have hlength := hlink.length_le
        rw [Library.resolveFrom_take hb]
        exact ih (h.take hb hlink) (by rw [List.length_append]; omega)

/-! ### The order of the blocks -/

theorem prefix_resolveFrom {steps : Nat} : r.blocks <+: (l.resolveFrom steps queue r).blocks := by
  induction steps generalizing queue r with
  | zero => exact List.prefix_refl _
  | succ steps ih =>
    cases queue with
    | nil => exact List.prefix_refl _
    | cons b queue =>
      by_cases hb : r.has b.id = true
      · rw [Library.resolveFrom_pass hb]
        exact ih
      · rw [Library.resolveFrom_take hb]
        exact (List.prefix_append _ _).trans (ih (r := ⟨r.blocks ++ [b], _⟩))

/-- What stands at the front of the queue is taken first, in its order and each block once. -/
theorem front_resolveFrom {steps : Nat} {front : List KnowledgeBlock}
    (hfront : ∀ b ∈ front, b ∈ l.blocks) (hsteps : front.length ≤ steps) :
    r.blocks ++ (front.filter fun b => !r.has b.id).eraseDups <+:
      (l.resolveFrom steps (front ++ queue) r).blocks := by
  induction front generalizing steps queue r with
  | nil =>
    rw [List.filter_nil, List.eraseDups_nil, List.append_nil]
    exact prefix_resolveFrom
  | cons b front ih =>
    obtain ⟨hb, hfront⟩ := List.forall_mem_cons.1 hfront
    obtain ⟨steps, rfl⟩ : ∃ m, steps = m + 1 := ⟨steps - 1, by simp at hsteps; omega⟩
    have hle : front.length ≤ steps := Nat.le_of_succ_le_succ hsteps
    rw [List.cons_append]
    by_cases htaken : r.has b.id = true
    · rw [Library.resolveFrom_pass htaken, List.filter_cons_of_neg (by simpa using htaken)]
      exact ih hfront hle
    · rw [Library.resolveFrom_take htaken, List.filter_cons_of_pos (by simpa using htaken),
        List.eraseDups_cons, List.append_cons, List.append_assoc front]
      -- Blocks with the id of the new one are the new one, and are passed over from now on.
      have hrest : ((front.filter fun c => !r.has c.id).filter fun c => !c == b) =
          front.filter fun c => !(Resolution.mk (r.blocks ++ [b])
            (l.link b.id b.dependencies r.edges).1).has c.id := by
        rw [List.filter_filter]
        refine List.filter_congr fun c hc => ?_
        have hsame : (c == b) = (b.id == c.id) := by
          rw [Bool.eq_iff_iff, beq_iff_eq, beq_iff_eq]
          exact ⟨fun h => h ▸ rfl, fun h => Library.eq_of_id_eq (hfront c hc) hb h.symm⟩
        rw [has_append, hsame, Bool.not_or, Bool.and_comm]
      rw [hrest]
      exact ih (r := ⟨r.blocks ++ [b], _⟩) hfront hle

/-! ## §4 The resolution -/

theorem Resolving.resolve (h : ∀ b ∈ selected, b ∈ l.blocks) :
    Resolving l selected [] (l.resolve selected) := by
  have hnone : untaken l {} = l.blocks := List.filter_eq_self.2 fun _ _ => rfl
  refine (resolving_start h).resolveFrom ?_
  rw [hnone, declared, List.flatMap_append, List.length_append]
  omega

theorem front_resolve (h : ∀ b ∈ selected, b ∈ l.blocks) :
    selected.eraseDups <+: (l.resolve selected).blocks := by
  have hnone : (selected.filter fun b => !Resolution.has {} b.id) = selected :=
    List.filter_eq_self.2 fun _ _ => rfl
  have hfront {steps : Nat} (hsteps : selected.length ≤ steps) :
      selected.eraseDups <+: (l.resolveFrom steps selected {}).blocks := by
    have htaken : [] ++ (selected.filter fun b => !Resolution.has {} b.id).eraseDups <+:
        (l.resolveFrom steps (selected ++ []) {}).blocks := front_resolveFrom (r := {}) h hsteps
    rwa [hnone, List.append_nil] at htaken
  exact hfront (Nat.le_succ_of_le (Nat.le_add_right _ _))

/-- With the queue worked off, a block taken comes with all that it builds on.  Where an edge was
refused, its target leads back to the block: it is the start of an edge, and so has been taken. -/
theorem Resolving.closed (h : Resolving l selected [] r) {id dependency : String}
    (hid : id ∈ r.ids) (hbuilds : l.BuildsOn id dependency) : dependency ∈ r.ids := by
  obtain ⟨hne, ⟨c, hc, hdep⟩, hexists⟩ := hbuilds
  obtain ⟨b, hb, rfl⟩ := List.mem_map.1 hid
  obtain ⟨hmem, heq⟩ := Library.block?_eq_some_iff.1 hc
  obtain rfl := Library.eq_of_id_eq hmem (h.blocks_mem b hb) heq
  rcases h.covered c hb dependency hdep hne hexists with hedge | hback
  · exact (h.target_mem _ _ hedge).resolve_right List.not_mem_nil
  · rcases hback.cases_head with heq | ⟨w, hedge, -⟩
    · exact absurd heq hne
    · obtain ⟨b, hb, hsource, -⟩ := h.source_mem _ _ hedge
      exact hsource ▸ List.mem_map_of_mem hb

/-- A resolution holds the selected blocks and all that they build on, directly or not. -/
theorem Library.mem_ids_resolve_iff (hselected : ∀ b ∈ selected, b ∈ l.blocks) {id : String} :
    id ∈ (l.resolve selected).ids ↔ ∃ s ∈ selected, ReflTransGen l.BuildsOn s.id id := by
  have h := Resolving.resolve hselected
  constructor
  · intro hid
    obtain ⟨b, hb, rfl⟩ := List.mem_map.1 hid
    exact h.reached b (.inl hb)
  · rintro ⟨s, hs, hpath⟩
    induction hpath with
    | refl =>
      exact List.mem_map_of_mem ((front_resolve hselected).subset (List.mem_eraseDups.2 hs))
    | tail _ hbuilds ih => exact h.closed ih hbuilds

/-- The resolution of some blocks of a library.

* It begins with these blocks, and holds no id twice.
* Its ids are those of the selected blocks and of all that they build on, directly or not.
* Its edges are declared dependencies between blocks of it, and form no cycle.
* For a declared dependency of a block of it, there is an edge, or its target leads back to the
  block. -/
theorem Library.resolve_spec (l : Library) (selected : List KnowledgeBlock)
    (hselected : ∀ b ∈ selected, b ∈ l.blocks) :
    (selected.eraseDups <+: (l.resolve selected).blocks ∧
      (∀ b ∈ (l.resolve selected).blocks, b ∈ l.blocks) ∧ (l.resolve selected).ids.Nodup) ∧
    (∀ id, id ∈ (l.resolve selected).ids ↔
      ∃ s ∈ selected, ReflTransGen l.BuildsOn s.id id) ∧
    ((∀ e ∈ (l.resolve selected).edges, e.1 ≠ e.2 ∧ e.2 ∈ (l.resolve selected).ids ∧
        ∃ b ∈ (l.resolve selected).blocks, b.id = e.1 ∧ e.2 ∈ b.dependencies) ∧
      (l.resolve selected).graph.Acyclic) ∧
    ∀ b ∈ (l.resolve selected).blocks, ∀ d ∈ b.dependencies, d ≠ b.id →
      (l.block? d).isSome = true →
        (b.id, d) ∈ (l.resolve selected).edges ∨ (l.resolve selected).graph.Leads d b.id := by
  have h := Resolving.resolve hselected
  have hfront : selected.eraseDups <+: (l.resolve selected).blocks := front_resolve hselected
  refine ⟨⟨hfront, h.blocks_mem, h.distinct⟩,
    fun _ => Library.mem_ids_resolve_iff hselected, ⟨?_, h.acyclic⟩, h.covered⟩
  rintro ⟨a, d⟩ he
  refine ⟨?_, (h.target_mem a d he).resolve_right List.not_mem_nil, h.source_mem a d he⟩
  intro heq
  obtain rfl : a = d := heq
  exact h.acyclic a (.single he)

/-- Three blocks that build on each other in a circle; the first one names itself as well, and the
second a block that is missing. -/
def circularLibrary : Library where
  blocks := [{ id := "a", name := "A", dependencies := ["a", "b"] },
    { id := "b", name := "B", dependencies := ["missing", "c"] },
    { id := "c", name := "C", dependencies := ["a"] }]
  distinct := by decide

/-- The edge that would close the circle is refused, as its target leads back. -/
theorem resolve_circularLibrary :
    (circularLibrary.resolve (circularLibrary.blocks.take 1)).edges = [("a", "b"), ("b", "c")] ∧
      (circularLibrary.resolve (circularLibrary.blocks.take 1)).graph.Leads "a" "c" := by
  have hblocks : (circularLibrary.resolve (circularLibrary.blocks.take 1)).blocks =
      circularLibrary.blocks := by decide
  have hedges : (circularLibrary.resolve (circularLibrary.blocks.take 1)).edges =
      [("a", "b"), ("b", "c")] := by decide
  obtain ⟨-, -, -, hcovered⟩ :=
    Library.resolve_spec circularLibrary (circularLibrary.blocks.take 1) (by decide)
  have hback := hcovered { id := "c", name := "C", dependencies := ["a"] }
    (by rw [hblocks]; decide) "a" (by decide) (by decide) (by decide)
  refine ⟨hedges, hback.resolve_left ?_⟩
  rw [hedges]
  decide

end PhysicsLab
