import SheetScript.Literal

namespace SheetScript

inductive Value where
  | blank
  | flag (b : Bool)
  | whole (n : Int)
  | real (x : Float)
  | text (s : String)
  | date (day : String)

namespace Value

def literal? : Value → Option String
  | flag b => some (Literal.ofBool b)
  | whole n => some (Literal.ofInt n)
  | real x => some (Literal.ofFloat x)
  | blank | text _ | date _ => none

def shown : Value → String
  | blank => "None"
  | flag b => Literal.ofBool b
  | whole n => Literal.ofInt n
  | real x => Literal.ofFloat x
  | text s => s
  | date day => day

def isBlank : Value → Bool
  | blank => true
  | _ => false

end Value

end SheetScript
