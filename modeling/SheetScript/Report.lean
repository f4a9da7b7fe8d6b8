import SheetScript.Engine
import SheetScript.Graph.Reverse
import SheetScript.Lookup
import SheetScript.Tree

/-!
Reports: what is printed on the way to an answer, which stays printed when the answer is an error.
-/

namespace SheetScript

inductive Event where
  | line (text : String)
  | tree (t : Tree String)

abbrev Report := ExceptT Error (StateM (List Event))

namespace Report

def print (e : Event) : Report Unit := modify (· ++ [e])

def ofExcept {α : Type} (x : Except Error α) : Report α := ExceptT.mk (pure x)

def outcome {α : Type} (r : Report α) : Except Error α × List Event :=
  (ExceptT.run r).run []

def compute (engine : Engine) (script cell : String) : Report Value :=
  match engine.evaluate script cell with
  | .ok value => return value
  | .error reason => do
    print (.line ("Error computing " ++ cell ++ ": " ++ reason))
    return .blank

def isNumeral (formula : List Char) : Bool :=
  let digits := formula.erase '.'
  !digits.isEmpty && digits.all Text.isDigit

def label (engine : Engine) (script cell : String) : Report String := do
  let found ← ofExcept (lookup script cell)
  let value ← compute engine script cell
  match found with
  | none => throw .noFormula
  | some formula =>
    let name := "[magenta]" ++ cell ++ "[/magenta] ("
    if isNumeral formula.toList then return name ++ value.shown ++ ")"
    else return name ++ formula ++ " => " ++ value.shown ++ ")"

def warning (cell : String) : Event :=
  .line ("Warning: Detected a circular dependency involving " ++ cell)

/-- Branches that were grown, and the visited vertices as they are left: as they were before. -/
structure Grown (visited : OrderedSet String) where
  branches : List (Tree String)
  left : OrderedSet String
  restored : left = visited

theorem Grown.erase_left {visited : OrderedSet String} {v : String}
    (r : Grown (visited.insert v)) (h : v ∉ visited) : r.left.erase v = visited := by
  rw [r.restored, OrderedSet.erase_insert h]

/-- Grows a branch for each of `vs`. A vertex counts as visited while the branches below it are
grown; one that is visited already has a warning instead of branches. -/
def growAll (g : Graph String) (format : String → Report String) (visited : OrderedSet String) :
    List String → Report (Grown visited)
  | [] => return ⟨[], visited, rfl⟩
  | v :: vs =>
    if _h : v ∈ visited then do
      let name ← format v
      print (warning v)
      let others ← growAll g format visited vs
      return ⟨.node name [] :: others.branches, others.left, others.restored⟩
    else do
      let name ← format v
      let below ← growAll g format (visited.insert v) (g.next v)
      let others ← growAll g format (below.left.erase v) vs
      return ⟨.node name below.branches :: others.branches, others.left,
        others.restored.trans (below.erase_left _h)⟩
termination_by vs => (g.unseen visited.toList, vs.length)
decreasing_by
  · exact .right _ (Nat.lt_succ_self _)
  · rw [Graph.unseen_insert]
    exact g.unseen_decreasing _h vs
  · rw [below.erase_left _h]
    exact .right _ (Nat.lt_succ_self _)

def grow (g : Graph String) (format : String → Report String) (visited : OrderedSet String)
    (root : String) (v : String) : Report (Tree String × OrderedSet String) :=
  if v ∈ visited then do
    print (warning v)
    return (.node root [], visited)
  else do
    let below ← growAll g format (visited.insert v) (g.next v)
    return (.node root below.branches, below.left.erase v)

def dependencyTree (engine : Engine) (script : String) (g : Graph String) (cell : String) :
    Report Unit := do
  let root ← label engine script cell
  let grown ← grow g (label engine script) .empty root cell
  print (.tree grown.1)

def dependantTree (engine : Engine) (script : String) (g : Graph String) (cell : String) :
    Report Unit := do
  let root ← label engine script cell
  let below ← (g.next cell).mapM (label engine script)
  print (.tree (.node root (below.map fun name => .node name [])))

def starts (g : Graph String) : Option String → List String
  | none => g.roots
  | some cell => if cell.isEmpty then g.roots else [cell]

def dependencies (engine : Engine) (script : String) (g : Graph String) (start : Option String) :
    Report Unit :=
  (starts g start).forM (dependencyTree engine script g)

def dependants (engine : Engine) (script : String) (g : Graph String) (start : Option String) :
    Report Unit :=
  (starts g.reverse start).forM (dependantTree engine script g.reverse)

end Report

end SheetScript
