import SheetScript.Graph.Cycles
import SheetScript.Graph.Order
import SheetScript.Program

namespace SheetScript

structure Script where
  text : String
  formulas : OrderedMap String String

namespace Program

def arrange (p : Program) : Except Error (List String) := do
  let g ← (p.graph.breakCycles .added).mapError .missingVertex
  (g.order p.cells.domain).mapError .cycle

def toScript (p : Program) : Except Error Script := do
  let names ← p.arrange
  let lines := names.filterMap fun name => (p.cells.find? name).map (declare name)
  return ⟨"\n".intercalate lines, p.formulas⟩

end Program

def Sheet.toScript (s : Sheet) : Except Error Script := do
  (← Program.ofSheet s).toScript

end SheetScript
