import SheetScript.Literal
import SheetScript.Pattern.Fault
import SheetScript.Text.Quoted

namespace SheetScript

inductive Error where
  | columnName (name : String)
  | columnNumber (number : Nat)
  | digitLimit (digits : Nat)
  | magnitude
  | cycle (cell : String)
  | missingVertex (cell : String)
  | pattern (e : Pattern.Error)
  | noFormula
  | noGroup
  | crossedGroup
  | noDefinition
  | zeroInPath
deriving DecidableEq

namespace Error

def message : Error → String
  | columnName name => name ++ " is not a valid column name"
  | columnNumber number => "Invalid column index " ++ Literal.ofNat number
  | digitLimit digits => Literal.overlong digits
  | magnitude => "int too large to convert to float"
  | cycle cell =>
    "The graph has a cycle, possibly due to a circular reference involving " ++ cell
  | missingVertex cell => Text.quote cell
  | pattern e => e.message
  | noFormula => "'NoneType' object has no attribute 'replace'"
  | noGroup => "no such group"
  | crossedGroup =>
    "The span of capturing group is wrong, please report a bug for the re module."
  | noDefinition => "'Namespace' object has no attribute 'define'"
  | zeroInPath => "embedded null byte"

end Error

end SheetScript
