import NodeGraph.Graph.Digraph

/-!
# Cycles

A component has a closed path if it has more than one vertex or an arc from its only vertex to
itself. Its nodes are all shown the same cycle: the one met by starting at a vertex of the component
and following the first arc that stays inside.
-/

namespace NodeGraph.Graph

/-- Whether a vertex is the first one of its component. -/
def isFirst (g : Graph) (v : String) : Bool :=
  let component := g.component v
  g.vertices.find? (component.contains ·) = some v

/-- The components, each once, in the order of their first vertices. -/
def components (g : Graph) : List (List String) := (g.vertices.filter g.isFirst).map g.component

/-- Whether a closed path runs in a component. -/
def hasCycle (g : Graph) : List String → Bool
  | [only] => (g.successors only).contains only
  | _ => true

/-- Follows `next` until it comes back to the path, which is given with its last vertex first. The
result starts and ends with the vertex met again. -/
def follow (next : String → Option String) : Nat → List String → List String
  | 0, path => path
  | _, [] => []
  | fuel + 1, v :: path =>
    match next v with
    | none => v :: path
    | some w =>
      if w ∈ v :: path then w :: (((v :: path).takeWhile (· ≠ w)).reverse ++ [w])
      else follow next fuel (w :: v :: path)

/-- The cycle that is met inside a component on the way from one of its vertices. -/
def cycleFrom (g : Graph) (component : List String) (start : String) : List String :=
  let next (u : String) := (g.successors u).find? (component.contains ·)
  follow next (component.length + 1) [start]

end NodeGraph.Graph
