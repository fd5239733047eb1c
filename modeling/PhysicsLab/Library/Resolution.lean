import PhysicsLab.Graph
import PhysicsLab.Library

/-!
# Resolution of dependencies

Selected blocks are completed by the blocks they build on, directly or not.  A declared dependency
is registered as an edge unless it is the block itself, is missing from the library, or would close
a cycle of registered edges.  So the registered edges never form a cycle, although the declared ones
may.

Blocks are taken from a queue.  One that has been taken before is passed over; the targets of the
edges registered for one go to the end of the queue.

## Main definitions

* `Resolution` — blocks and registered edges, with `dependenciesOf`
* `Library.resolve`
-/

namespace PhysicsLab

/-- Blocks with the registered edges from a block to one that it builds on. -/
structure Resolution where
  blocks : List KnowledgeBlock := []
  edges : List (String × String) := []

namespace Resolution

/-- The ids of the blocks that a block builds on. -/
def dependenciesOf (r : Resolution) (id : String) : List String :=
  (r.edges.filter fun e => e.1 == id).map Prod.snd

/-- Whether a block with an id is there. -/
def has (r : Resolution) (id : String) : Bool := r.blocks.any fun b => b.id == id

end Resolution

namespace Library

/-- The block that a declared dependency can be registered for, beside some registered edges. -/
def linkTarget? (l : Library) (edges : List (String × String)) (id dependency : String) :
    Option KnowledgeBlock :=
  -- The edge closes a cycle exactly if a path leads back from the target.
  if dependency = id then none
  else (l.block? dependency).filter fun b =>
    !(Graph.mk (edges.map Prod.fst) edges).reaches b.id id

/-- Registers the dependencies of a block; gives the edges and the targets of the new ones. -/
def link (l : Library) (id : String) :
    List String → List (String × String) → List (String × String) × List KnowledgeBlock
  | [], edges => (edges, [])
  | dependency :: rest, edges =>
    match l.linkTarget? edges id dependency with
    | none => link l id rest edges
    | some target =>
      let (edges, targets) := link l id rest (edges ++ [(id, target.id)])
      (edges, target :: targets)

/-- Works off a queue of blocks, within a number of steps. -/
def resolveFrom (l : Library) : Nat → List KnowledgeBlock → Resolution → Resolution
  | 0, _, r => r
  | _, [], r => r
  | steps + 1, b :: queue, r =>
    if r.has b.id then resolveFrom l steps queue r
    else
      let (edges, targets) := l.link b.id b.dependencies r.edges
      resolveFrom l steps (queue ++ targets) ⟨r.blocks ++ [b], edges⟩

/-- The selected blocks and the blocks that they build on.  A block enters the queue as a selected
one or for a declared dependency, which bounds the number of steps. -/
def resolve (l : Library) (selected : List KnowledgeBlock) : Resolution :=
  let declared := (selected ++ l.blocks).flatMap KnowledgeBlock.dependencies
  l.resolveFrom (selected.length + declared.length + 1) selected {}

end Library

end PhysicsLab
