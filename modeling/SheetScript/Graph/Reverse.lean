import SheetScript.Graph.Basic

universe u

namespace SheetScript.Graph

variable {V : Type u} [DecidableEq V]

/-- Arrows are turned in order, so a row lists its vertices in the order of the old rows. -/
def reverse (g : Graph V) : Graph V :=
  g.edges.foldl (fun r e => r.addEdge e.2 e.1) OrderedMap.empty

end SheetScript.Graph
