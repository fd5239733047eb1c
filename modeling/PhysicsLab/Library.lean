import PhysicsLab.Model

/-!
# Libraries of physical knowledge

A library holds blocks of knowledge, each about one field of physics: the parameters and equations
it speaks about, the blocks it builds on, and the words by which it is recognised.  The ids of the
blocks in a library are distinct; registering a block under an id that is already there replaces the
block and keeps its place.

## Main definitions

* `KnowledgeBlock` — with `declares`
* `Library` — with `register` and `block?`
-/

namespace PhysicsLab

open PhysicsLab.Text

/-! ## §1 Blocks -/

/-- A parameter that a block declares. -/
structure DeclaredParameter where
  symbol : String
  value : Float
  unit : String
  role : ParameterRole
  description : String := ""
  formula : Option String := none
  deriving DecidableEq

/-- Whether an expression is linear as far as can be seen: it holds no power and none of the common
nonlinear functions. -/
def isLinear (expression : String) : Bool :=
  !containsAny expression ["^", "sin(", "cos(", "sqrt(", "exp("]

/-- An equation that a block declares; its id is local to the block. -/
structure DeclaredEquation where
  id : String
  kind : EquationKind
  expression : String
  meaning : String := ""
  linear : Bool := isLinear expression
  deriving DecidableEq

/-- A block of knowledge. -/
structure KnowledgeBlock where
  id : String
  name : String
  domain : Domain := .generic
  description : String := ""
  parameters : List DeclaredParameter := []
  equations : List DeclaredEquation := []
  /-- The symbols that the block explains. -/
  outputs : List String := []
  /-- The ids of the blocks that it builds on. -/
  dependencies : List String := []
  conserves : List Conserved := []
  assumptions : List String := []
  limitations : List String := []
  complexity : ComplexityTier := .basic
  deriving DecidableEq

namespace KnowledgeBlock

/-- Whether a block declares a symbol. -/
def declares (b : KnowledgeBlock) (symbol : String) : Bool :=
  b.parameters.any fun p => p.symbol == symbol

/-- The blocks with one put in the place of that with its id, or at the end. -/
def putIn (b : KnowledgeBlock) : List KnowledgeBlock → List KnowledgeBlock
  | [] => [b]
  | c :: rest => if c.id = b.id then b :: rest else c :: putIn b rest

theorem mem_ids_putIn {b : KnowledgeBlock} {id : String} {blocks : List KnowledgeBlock} :
    id ∈ (b.putIn blocks).map KnowledgeBlock.id ↔
      id = b.id ∨ id ∈ blocks.map KnowledgeBlock.id := by
  induction blocks with
  | nil => simp [putIn]
  | cons c rest ih =>
    unfold putIn
    split
    · next h => simp [h]
    · rw [List.map_cons, List.mem_cons, ih, List.map_cons, List.mem_cons]
      exact or_left_comm

theorem nodup_ids_putIn {b : KnowledgeBlock} {blocks : List KnowledgeBlock}
    (h : (blocks.map KnowledgeBlock.id).Nodup) :
    ((b.putIn blocks).map KnowledgeBlock.id).Nodup := by
  induction blocks with
  | nil => simp [putIn]
  | cons c rest ih =>
    obtain ⟨hc, hrest⟩ := List.nodup_cons.1 h
    unfold putIn
    split
    · next heq => exact List.nodup_cons.2 ⟨heq ▸ hc, hrest⟩
    · next hne =>
      refine List.nodup_cons.2 ⟨fun hmem => ?_, ih hrest⟩
      rcases mem_ids_putIn.1 hmem with heq | hm
      · exact hne heq
      · exact hc hm

end KnowledgeBlock

/-! ## §2 Libraries -/

/-- Blocks with distinct ids. -/
structure Library where
  blocks : List KnowledgeBlock
  distinct : (blocks.map KnowledgeBlock.id).Nodup

namespace Library

/-- The library without blocks. -/
def empty : Library := ⟨[], List.nodup_nil⟩

/-- Puts a block in the place of that with its id, or at the end. -/
def register (l : Library) (b : KnowledgeBlock) : Library :=
  ⟨b.putIn l.blocks, KnowledgeBlock.nodup_ids_putIn l.distinct⟩

/-- The library of a list of blocks; a later block replaces an earlier one with its id. -/
def ofList (blocks : List KnowledgeBlock) : Library := blocks.foldl register empty

/-- The block with an id. -/
def block? (l : Library) (id : String) : Option KnowledgeBlock := l.blocks.find? fun b => b.id == id

end Library

end PhysicsLab
