/-!
# Directed graphs

Finite directed graphs, given by a list of vertices and a list of edges in the order in which they
were added.  An edge points from what depends to what it depends on.

* Reachability explores from a vertex along the edges; every vertex reaches itself.
* The layers of a graph are peeled off from below: the first layer holds the vertices that depend on
  nothing, the next those that depend on the first only, and so on.  Peeling gets stuck exactly at a
  cycle.
* Where a graph has a cycle, one vertex on a cycle is named.  It is the first, in the order in which
  they are discovered, that depends on itself; or else it is found by an edge that runs backwards in
  the order in which a depth-first search leaves the vertices.

## Main definitions

* `Graph.reaches` — whether a path leads from one vertex to another
* `Graph.layers?` — the layers of an acyclic graph
* `Graph.cycleVertex?` — a vertex on a cycle
-/

namespace PhysicsLab

/-- Vertices, and edges in the order in which they were added. -/
structure Graph (α : Type) where
  vertices : List α
  edges : List (α × α)

namespace Graph

variable {α : Type} [DecidableEq α]

/-- What a vertex depends on, the oldest edge first. -/
def successors (g : Graph α) (v : α) : List α :=
  (g.edges.filter fun e => e.1 == v).map Prod.snd

/-- What depends on a vertex, the oldest edge first. -/
def predecessors (g : Graph α) (v : α) : List α :=
  (g.edges.filter fun e => e.2 == v).map Prod.fst

/-! ## §1 Reachability -/

/-- The vertices reached from the pending ones, within a number of steps, beside those already
seen. -/
def explore (g : Graph α) : Nat → List α → List α → List α
  | 0, _, seen => seen
  | _, [], seen => seen
  | steps + 1, v :: pending, seen =>
    if seen.contains v then explore g steps pending seen
    else explore g steps (g.successors v ++ pending) (v :: seen)

/-- The vertices that a path leads to, the vertex itself among them.  Each edge is followed once, so
the number of steps is that of the edges and one more. -/
def reachable (g : Graph α) (v : α) : List α := g.explore (g.edges.length + 1) [v] []

/-- Whether a path leads from one vertex to another. -/
def reaches (g : Graph α) (v w : α) : Bool := (g.reachable v).contains w

/-! ## §2 Layers -/

/-- Whether a vertex depends on none of the waiting ones. -/
def isReady (g : Graph α) (waiting : List α) (v : α) : Bool :=
  (g.successors v).all fun w => !waiting.contains w

/-- The layers of the waiting vertices, at most as many as the bound; none if they get stuck. -/
def peel? (g : Graph α) : Nat → List α → Option (List (List α))
  | _, [] => some []
  | 0, _ :: _ => none
  | bound + 1, v :: rest =>
    let waiting := v :: rest
    let ready := waiting.filter (g.isReady waiting)
    -- Where nothing is ready, every waiting vertex depends on another: there is a cycle.
    if ready.isEmpty then none
    else (peel? g bound (waiting.filter fun w => !g.isReady waiting w)).map (ready :: ·)

/-- The layers of an acyclic graph, each in the order of the vertices. -/
def layers? (g : Graph α) : Option (List (List α)) := g.peel? g.vertices.length g.vertices

/-- Whether some vertex depends, directly or not, on itself. -/
def isCyclic (g : Graph α) : Bool := g.layers?.isNone

/-! ## §3 Cycles -/

/-- The state of a depth-first search. -/
structure Search (α : Type) where
  /-- The vertices discovered, the latest first. -/
  seen : List α := []
  /-- The vertices left, the latest first. -/
  left : List α := []

/-- Searches from each of the pending vertices in turn, within a number of steps. -/
def searchFrom (g : Graph α) : Nat → List α → Search α → Search α
  | 0, _, s => s
  | _, [], s => s
  | steps + 1, v :: pending, s =>
    if s.seen.contains v then searchFrom g steps pending s
    else
      -- All that is found from a vertex is left before the vertex itself.
      let below := searchFrom g steps (g.successors v) { s with seen := v :: s.seen }
      searchFrom g steps pending { below with left := v :: below.left }

/-- The depth-first search of the whole graph. -/
def search (g : Graph α) : Search α :=
  g.searchFrom (2 * g.vertices.length + g.edges.length + 1) g.vertices {}

/-- In a list of vertices each of which is to depend on later ones only, the first that a later one
depends on gives that later one; of several, the one with the oldest edge. -/
def backward? (g : Graph α) : List α → Option α
  | [] => none
  | v :: later =>
    match (g.predecessors v).find? later.contains with
    | some w => some w
    | none => backward? g later

/-- A vertex on a cycle. -/
def cycleVertex? (g : Graph α) : Option α :=
  match g.search.seen.reverse.find? fun v => (g.successors v).contains v with
  | some v => some v
  | none => g.backward? g.search.left

end Graph

end PhysicsLab
