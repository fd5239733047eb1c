import Mathlib.Data.List.Flatten
import PhysicsLab.Assembly.Modules
import PhysicsLab.Proofs.Assembly.Tables
import PhysicsLab.Proofs.Library.Resolution

/-!
# What modules are made of

The table of a block holds the declared parameters and one for each name that an equation mentions
and nobody declares or states.  The dependencies of its parameters are read off their formulas once
all names are in.

A module of a problem holds the stated parameters and no equations, or what a block of the library
gives.  Which blocks there are, and on which ones they build, is decided by the resolution of the
selected blocks.

## Main definitions

* `KnowledgeBlock.mentions`, `KnowledgeBlock.filled` — the names in the equations of a block, and
  its parameters with those names added
* `PhysicsModule.DrawnFrom` — where the parameters and equations of a module come from

## Main statements

* `mem_dependencies_withDependencies`
* `KnowledgeBlock.mem_keys_table`, `KnowledgeBlock.every_table`
* `Library.mem_selection_iff`
* `Problem.drawnFrom`
-/

namespace PhysicsLab

/-! ## §1 Dependencies -/

/-- A parameter depends on the names that its formula refers to, as far as they are at hand, and
never on its own symbol. -/
theorem mem_dependencies_withDependencies {p : Parameter} {symbols : List String} {d : String} :
    d ∈ (p.withDependencies symbols).dependencies ↔
      d ∈ symbols ∧ d ≠ p.symbol ∧
        ∃ formula, p.formula = some formula ∧ d ∈ Formula.identifiers formula := by
  show d ∈ p.formulaDependencies symbols ↔ _
  unfold Parameter.formulaDependencies
  split
  · next hnone => simp [hnone]
  · next formula hsome =>
    simp only [Formula.referenced, List.mem_eraseDups, List.mem_filter, List.contains_iff_mem,
      bne_iff_ne, and_assoc, hsome, Option.some.injEq, exists_eq_left']

/-! ## §2 The table of a block -/

namespace KnowledgeBlock

variable {b : KnowledgeBlock} {stated t : Table Parameter} {P : String → Parameter → Prop}
  {key : String}

/-- The names in the equations of a block, each with the id of its equation. -/
def mentions (b : KnowledgeBlock) : List (String × String) :=
  b.equations.flatMap fun e => (Formula.identifiers e.expression).map fun name =>
    (b.equationId e, name)

/-- Adds the parameter of a name in an equation, unless it is in the table or stated. -/
def addMention (b : KnowledgeBlock) (stated t : Table Parameter) (x : String × String) :
    Table Parameter :=
  if t.has x.2 || stated.has x.2 then t else t.put x.2 (impliedParameter x.2 b.domain x.1)

/-- The declared parameters of a block. -/
def declaredTable (b : KnowledgeBlock) : Table Parameter :=
  .ofList (b.parameters.map fun p => (p.symbol, p.toParameter))

/-- The parameters of a block, before the dependencies of their formulas are looked up. -/
def filled (b : KnowledgeBlock) (stated : Table Parameter) : Table Parameter :=
  b.mentions.foldl (b.addMention stated) b.declaredTable

theorem table_eq (b : KnowledgeBlock) (stated : Table Parameter) :
    b.table stated = (b.filled stated).mapValues fun _ p =>
      p.withDependencies ((b.filled stated).keys ++ stated.keys) := by
  -- One fold over all names of all equations, in place of one fold in the other.
  have hfilled : b.equations.foldl (b.addImplied stated) b.declaredTable = b.filled stated := by
    rw [filled, mentions, List.foldl_flatMap]
    congr
    funext t e
    rw [List.foldl_map]
    rfl
  rw [← hfilled]
  rfl

theorem mem_keys_addMention {x : String × String} :
    key ∈ (b.addMention stated t x).keys ↔ key ∈ t.keys ∨ (key ∉ stated.keys ∧ key = x.2) := by
  unfold addMention
  split
  · next hthere =>
    -- Nothing is added, and nothing would have been new.
    rw [Bool.or_eq_true, Table.has_iff, Table.has_iff] at hthere
    refine ⟨.inl, ?_⟩
    rintro (hkey | ⟨hstated, rfl⟩)
    · exact hkey
    · exact hthere.resolve_right hstated
  · next hnew =>
    -- The name is added, and it is not stated.
    rw [Bool.or_eq_true, not_or, Table.has_iff, Table.has_iff] at hnew
    rw [Table.mem_keys_put, or_comm]
    refine or_congr_right ⟨fun heq => ?_, And.right⟩
    subst heq
    exact ⟨hnew.2, rfl⟩

theorem mem_keys_declaredTable : key ∈ b.declaredTable.keys ↔ b.declares key = true := by
  rw [declaredTable, Table.mem_keys_ofList, declares, List.any_eq_true]
  constructor
  · rintro ⟨e, he, rfl⟩
    obtain ⟨p, hp, rfl⟩ := List.mem_map.1 he
    exact ⟨p, hp, beq_self_eq_true _⟩
  · rintro ⟨p, hp, hsame⟩
    exact ⟨_, List.mem_map_of_mem hp, (beq_iff_eq.1 hsame).symm⟩

/-- The keys of the table of a block: what it declares, and what its equations mention and the
problem does not state. -/
theorem mem_keys_table :
    key ∈ (b.table stated).keys ↔
      b.declares key = true ∨
        (key ∉ stated.keys ∧ ∃ e ∈ b.equations, key ∈ Formula.identifiers e.expression) := by
  have hstep : ∀ (t : Table Parameter) (x : String × String),
      key ∈ (b.addMention stated t x).keys ↔ key ∈ t.keys ∨ (key ∉ stated.keys ∧ key = x.2) :=
    fun _ _ => mem_keys_addMention
  rw [table_eq, Table.keys_mapValues, filled, Table.mem_keys_foldl hstep, mem_keys_declaredTable]
  refine or_congr_right ?_
  simp only [mentions, List.mem_flatMap, List.mem_map]
  constructor
  · rintro ⟨-, ⟨e, he, name, hname, rfl⟩, hstated, rfl⟩
    exact ⟨hstated, e, he, hname⟩
  · rintro ⟨hstated, e, he, hname⟩
    exact ⟨_, ⟨e, he, key, hname, rfl⟩, hstated, rfl⟩

/-- What holds of every declared parameter of a block and of every implied one that it does not
declare holds of every entry of its table. -/
theorem every_table
    (hdeclared : ∀ p ∈ b.parameters,
      P p.symbol (p.toParameter.withDependencies ((b.table stated).keys ++ stated.keys)))
    (himplied : ∀ e ∈ b.equations, ∀ name ∈ Formula.identifiers e.expression,
      b.declares name = false → P name ((impliedParameter name b.domain
        (b.equationId e)).withDependencies ((b.table stated).keys ++ stated.keys))) :
    (b.table stated).Every P := by
  have hkeys : (b.table stated).keys = (b.filled stated).keys := by
    rw [table_eq, Table.keys_mapValues]
  rw [hkeys] at hdeclared himplied
  rw [table_eq, Table.every_mapValues]
  generalize (b.filled stated).keys ++ stated.keys = symbols at hdeclared himplied
  -- Declared keys stay in the table, so a name that is added is not declared.
  suffices h : (b.filled stated).Every (fun key p => P key (p.withDependencies symbols)) ∧
      ∀ key ∈ b.declaredTable.keys, key ∈ (b.filled stated).keys from h.1
  refine List.foldlRecOn (motive := fun t : Table Parameter =>
      t.Every (fun key p => P key (p.withDependencies symbols)) ∧
        ∀ key ∈ b.declaredTable.keys, key ∈ t.keys)
    b.mentions (b.addMention stated) ⟨?_, fun _ hkey => hkey⟩ ?_
  · refine Table.every_ofList fun e he => ?_
    obtain ⟨p, hp, rfl⟩ := List.mem_map.1 he
    exact hdeclared p hp
  · rintro t ⟨hevery, hthere⟩ x hx
    refine ⟨?_, fun key hkey => mem_keys_addMention.2 (.inl (hthere key hkey))⟩
    simp only [mentions, List.mem_flatMap, List.mem_map] at hx
    obtain ⟨e, he, name, hname, rfl⟩ := hx
    unfold addMention
    split
    · exact hevery
    · next hnew =>
      rw [Bool.or_eq_true, not_or, Table.has_iff] at hnew
      refine hevery.put (himplied e he name hname (Bool.eq_false_iff.2 fun hdeclares => ?_))
      exact hnew.1 (hthere name (mem_keys_declaredTable.2 hdeclares))

end KnowledgeBlock

/-! ## §3 Selected blocks -/

variable {l : Library} {p : Problem} {stated : Table Parameter}

theorem mem_foldl_addBlock_iff {candidates selected : List KnowledgeBlock}
    (hcandidates : ∀ b ∈ candidates, b ∈ l.blocks) (hselected : ∀ b ∈ selected, b ∈ l.blocks)
    {b : KnowledgeBlock} :
    b ∈ candidates.foldl addBlock selected ↔ b ∈ selected ∨ b ∈ candidates := by
  induction candidates generalizing selected with
  | nil => simp
  | cons c rest ih =>
    obtain ⟨hc, hrest⟩ := List.forall_mem_cons.1 hcandidates
    rw [List.foldl_cons]
    by_cases htaken : (selected.any fun d => d.id == c.id) = true
    · -- The block that has the id of the candidate is the candidate.
      obtain ⟨d, hd, hid⟩ := List.any_eq_true.1 htaken
      obtain rfl := Library.eq_of_id_eq (hselected d hd) hc (beq_iff_eq.1 hid)
      rw [addBlock, if_pos htaken, ih hrest hselected, List.mem_cons]
      constructor
      · exact Or.imp_right .inr
      · rintro (hb | rfl | hb)
        exacts [.inl hb, .inl hd, .inr hb]
    · have hadded : ∀ b ∈ selected ++ [c], b ∈ l.blocks := by
        rw [List.forall_mem_append]
        exact ⟨hselected, List.forall_mem_singleton.2 hc⟩
      rw [addBlock, if_neg htaken, ih hrest hadded, List.mem_append, List.mem_singleton, or_assoc,
        List.mem_cons]

namespace Library

theorem mem_matching_iff {symbols : List String} {systemType freeText : String}
    {b : KnowledgeBlock} : b ∈ l.matching symbols systemType freeText ↔
      b ∈ l.blocks ∧ (b.signals symbols systemType freeText).accepted = true :=
  List.mem_filter

theorem mem_filterMap_block?_iff {ids : List String} {b : KnowledgeBlock} :
    b ∈ ids.filterMap l.block? ↔ b ∈ l.blocks ∧ b.id ∈ ids := by
  rw [List.mem_filterMap]
  constructor
  · rintro ⟨id, hid, hb⟩
    obtain ⟨hmem, rfl⟩ := block?_eq_some_iff.1 hb
    exact ⟨hmem, hid⟩
  · rintro ⟨hmem, hid⟩
    exact ⟨b.id, hid, block?_eq_some_iff.2 ⟨hmem, rfl⟩⟩

/-- The selected blocks are those that the problem asks for and those that signals point at. -/
theorem mem_selection_iff {b : KnowledgeBlock} :
    b ∈ l.selection p ↔ b ∈ l.blocks ∧
      (b.id ∈ p.modules ∨ (b.signals p.symbols p.systemType p.freeText).accepted = true) := by
  have hcandidates : ∀ c ∈ p.modules.filterMap l.block? ++
      l.matching p.symbols p.systemType p.freeText, c ∈ l.blocks := by
    intro c hc
    rcases List.mem_append.1 hc with hc | hc
    · exact (mem_filterMap_block?_iff.1 hc).1
    · exact (mem_matching_iff.1 hc).1
  rw [selection, mem_foldl_addBlock_iff hcandidates (fun _ hb => absurd hb List.not_mem_nil),
    List.mem_append, mem_filterMap_block?_iff, mem_matching_iff, ← and_or_left]
  exact or_iff_right List.not_mem_nil

/-- Blocks are selected from the library. -/
theorem mem_of_mem_selection {b : KnowledgeBlock} (hb : b ∈ l.selection p) : b ∈ l.blocks :=
  (mem_selection_iff.1 hb).1

end Library

/-! ## §4 Modules -/

/-- Where the parameters and equations of a module come from: it holds the stated parameters and no
equations, or what a block of the library gives. -/
inductive PhysicsModule.DrawnFrom (l : Library) (stated : Table Parameter) (b : PhysicsModule) :
    Prop where
  | stated (hparameters : b.parameters = stated) (hequations : b.equations = [])
  | block (c : KnowledgeBlock) (hc : c ∈ l.blocks) (hparameters : b.parameters = c.table stated)
      (hequations : b.equations = c.equations.map (c.toEquation (c.table stated) stated))

theorem KnowledgeBlock.drawnFrom {c : KnowledgeBlock} (hc : c ∈ l.blocks)
    (dependencies : List String) (stated : Table Parameter) :
    (c.toModule dependencies stated).DrawnFrom l stated := by
  unfold toModule
  split
  · exact .stated rfl rfl
  · exact .block c hc rfl rfl

theorem Problem.resolving (l : Library) (p : Problem) :
    Resolving l (l.selection p) [] (l.resolve (l.selection p)) :=
  Resolving.resolve fun _ => Library.mem_of_mem_selection

theorem Problem.drawnFrom {b : PhysicsModule} (hb : b ∈ p.modulesWith l stated) :
    b.DrawnFrom l stated := by
  simp only [modulesWith] at hb
  split at hb
  · rw [List.mem_singleton.1 hb]
    exact .stated rfl rfl
  · obtain ⟨c, hc, rfl⟩ := List.mem_map.1 hb
    exact KnowledgeBlock.drawnFrom ((p.resolving l).blocks_mem c hc) _ _

end PhysicsLab
