import SheetScript.Formula.Compile
import SheetScript.Formula.Reference
import SheetScript.Graph.Basic
import SheetScript.Sheet

namespace SheetScript

structure Declaration where
  name : String
  expression : String
  formula : Option String
  references : List String

def declare (name expression : String) : String := "var " ++ name ++ " = " ++ expression ++ ";"

/-- Numbers and texts that start with an equals sign declare their cell; nothing else does. -/
def Position.declaration? (p : Position) : Except Error (Option Declaration) := do
  let name ← p.name
  match p.value.literal?, p.value with
  | some literal, _ => return some ⟨name, literal, none, []⟩
  | none, .text s =>
    match s.toList with
    | '=' :: formula =>
      let expression ← Formula.compileChars formula
      return some ⟨name, String.ofList expression, some s, Formula.references formula⟩
    | _ => return none
  | none, _ => return none

def Sheet.declarations (s : Sheet) : Except Error (List Declaration) := do
  return (← s.positions.mapM Position.declaration?).filterMap id

structure Program where
  cells : OrderedMap String String
  graph : Graph String
  formulas : OrderedMap String String

namespace Program

def graphOf (ds : List Declaration) : Graph String :=
  ds.foldl (fun g d => d.references.foldl (fun g r => Graph.addEdge g d.name r) g) .empty

/-- Cells that are only referred to come last and are zero. -/
def ofDeclarations (ds : List Declaration) : Program :=
  let graph := graphOf ds
  let absent := graph.targets.filter (· ∉ ds.map (·.name))
  { cells := .ofList (ds.map (fun d => (d.name, d.expression)) ++ absent.map (·, "0"))
    graph
    formulas := .ofList (ds.filterMap fun d => d.formula.map (d.name, ·)) }

def ofSheet (s : Sheet) : Except Error Program := do
  return ofDeclarations (← s.declarations)

def lines (p : Program) : List (String × String) :=
  p.cells.entries.map fun (name, expression) => (name, declare name expression)

end Program

end SheetScript
