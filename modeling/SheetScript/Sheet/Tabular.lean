import SheetScript.Decimal.Read
import SheetScript.Sheet
import SheetScript.Text.Cut

namespace SheetScript

def Value.whole? (cs : List Char) : Option Value :=
  let (negative, digits) := Decimal.splitSign cs
  (Decimal.readDigits? digits).map fun n => .whole (if negative then -(n : Int) else n)

def Value.real? (cs : List Char) : Option Value :=
  match (Decimal.splitSign cs).2 with
  | c :: _ => if Text.isDecimal c then (Decimal.read? (String.ofList cs)).map .real else none
  | [] => none

def Value.ofText (s : String) : Value :=
  if s.isEmpty then .blank
  else if s = "TRUE" then .flag true
  else if s = "FALSE" then .flag false
  else ((Value.whole? s.toList).or (Value.real? s.toList)).getD (.text s)

def Sheet.ofText (s : String) : Sheet :=
  ⟨(Text.cutAt '\n' s.toList).map fun row =>
    (Text.cutAt '\t' row).map fun cell => .ofText (String.ofList cell)⟩

end SheetScript
