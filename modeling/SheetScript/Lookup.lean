import SheetScript.Error
import SheetScript.Pattern.Match
import SheetScript.Pattern.Parse

/-!
Declarations looked up in the text of a script. The name that is looked up is part of a pattern.
-/

namespace SheetScript

def declarationPattern (cell : String) : List Char :=
  "var ".toList ++ cell.toList ++ " = (.*?);".toList

/-- What the first group takes in the first match, or the empty text if nothing matches. A group
that takes no part in the match gives none. -/
def lookup (script cell : String) : Except Error (Option String) := do
  let pattern ← (Pattern.parse (declarationPattern cell)).mapError .pattern
  match pattern.search script.toList with
  | none => return some ""
  | some (_, marks) =>
    if marks.crossed then throw .crossedGroup
    else if pattern.body.hasGroup 1 then return (marks.taken 1).map String.ofList
    else throw .noGroup

end SheetScript
