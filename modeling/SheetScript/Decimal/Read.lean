import SheetScript.Text.Digit

namespace SheetScript.Decimal

def splitSign : List Char → Bool × List Char
  | '-' :: cs => (true, cs)
  | '+' :: cs => (false, cs)
  | cs => (false, cs)

def readDigits? (cs : List Char) : Option Nat :=
  if !cs.isEmpty && cs.all Text.isDecimal then some (Text.digitsValue cs) else none

def readExponent? : List Char → Option Int
  | [] => some 0
  | c :: cs =>
    if c = 'e' ∨ c = 'E' then
      let (negative, digits) := splitSign cs
      (readDigits? digits).map fun n => if negative then -(n : Int) else n
    else none

def nearestDouble (coefficient : Nat) (exponent : Int) : Float :=
  Float.ofScientific coefficient (exponent < 0) exponent.natAbs

def readUnsigned? (cs : List Char) : Option Float :=
  if cs = ['i', 'n', 'f'] then some (1.0 / 0.0)
  else if cs = ['n', 'a', 'n'] then some (0.0 / 0.0)
  else
    let (whole, rest) := cs.span Text.isDecimal
    let (fraction, rest) := match rest with
      | '.' :: more => more.span Text.isDecimal
      | _ => ([], rest)
    match readDigits? (whole ++ fraction), readExponent? rest with
    | some n, some e => some (nearestDouble n (e - fraction.length))
    | _, _ => none

def read? (s : String) : Option Float :=
  let (negative, cs) := splitSign s.toList
  (readUnsigned? cs).map fun x => if negative then -x else x

end SheetScript.Decimal
