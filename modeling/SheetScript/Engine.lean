import SheetScript.Ordered.Map
import SheetScript.Value

namespace SheetScript

/-- Runs a script and gives the value of a cell after it, or the reason why the script fails. -/
structure Engine where
  evaluate : (script cell : String) → Except String Value

def Engine.ofTable (values : OrderedMap String Value) (failure : Option String) : Engine where
  evaluate _ cell :=
    match failure with
    | some reason => .error reason
    | none => .ok ((values.find? cell).getD .blank)

end SheetScript
