import SheetScript.Graph.Basic

universe u

namespace SheetScript.Graph

variable {V : Type u} [DecidableEq V]

/-- Lists `vs` behind `done`, each after all that it leads to. `path` leads from the start to `vs`;
a vertex of the path among them closes a cycle, and then there is no such list. -/
def settle? (g : Graph V) (path done : List V) : List V → Option (List V)
  | [] => some done
  | v :: vs =>
    if v ∈ done then g.settle? path done vs
    else if _h : v ∈ path then none
    else
      match g.settle? (v :: path) done (g.next v) with
      | none => none
      | some done => g.settle? path (done ++ [v]) vs
termination_by vs => (g.unseen path, vs.length)
decreasing_by
  · exact .right _ (Nat.lt_succ_self _)
  · exact g.unseen_decreasing _h vs
  · exact .right _ (Nat.lt_succ_self _)

def order (g : Graph V) (cells : OrderedSet V) : Except V (List V) :=
  cells.toList.foldlM
    (fun done v =>
      match g.settle? [] done [v] with
      | none => .error v
      | some done => .ok done)
    []

end SheetScript.Graph
