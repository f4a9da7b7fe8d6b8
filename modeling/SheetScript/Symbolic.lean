import SheetScript.Engine
import SheetScript.Lookup

namespace SheetScript

/-- The value of a cell is its expression as text; a cell that is not declared has none. -/
def Engine.symbolic : Engine where
  evaluate script cell :=
    match lookup script cell with
    | .ok (some expression) => .ok (if expression.isEmpty then .blank else .text expression)
    | .ok none => .ok .blank
    | .error e => .error e.message

end SheetScript
