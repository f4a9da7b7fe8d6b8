import SheetScript.Decimal.Read
import SheetScript.Error
import SheetScript.Text.Scan

/-!
Percentages. A percentage is written as a number over a hundred; one with a decimal comma is first
turned into a number with a point, whose second part counts hundredths.
-/

namespace SheetScript.Formula

def number (digits : List Char) : Except Error Nat :=
  if digits.length ≤ Literal.maxDigits then .ok (Text.digitsValue digits)
  else .error (.digitLimit digits.length)

def double (n : Nat) : Except Error Float :=
  let x := Decimal.nearestDouble n 0
  if x.isInf then .error .magnitude else .ok x

def overHundred : List Char := ['/', '1', '0', '0']

def commaPercent? (cs : List Char) : Option ((List Char × List Char) × Nat) :=
  let whole := cs.takeWhile Text.isDecimal
  match cs.drop whole.length with
  | ',' :: more =>
    let part := more.takeWhile Text.isDecimal
    match more.drop part.length with
    | '%' :: _ =>
      if whole = [] ∨ part = [] then none
      else some ((whole, part), whole.length + part.length + 2)
    | _ => none
  | _ => none

def writeCommaPercent : List Char × List Char → Except Error (List Char)
  | (whole, part) => do
    let a ← number whole
    let b ← number part
    let hundredths := (← double b) / 100.0
    let sum := (← double a) + hundredths
    return (Literal.ofFloat sum).toList ++ overHundred

def percent? (cs : List Char) : Option (List Char × Nat) :=
  let digits := cs.takeWhile Text.isDecimal
  match cs.drop digits.length with
  | '%' :: _ => if digits = [] then none else some (digits, digits.length + 1)
  | _ => none

def writePercent (digits : List Char) : Except Error (List Char) := do
  return (Literal.ofNat (← number digits)).toList ++ overHundred

def expandCommaPercents : List Char → Except Error (List Char) :=
  Text.replaceM Text.isDecimal commaPercent? writeCommaPercent

def expandPercents : List Char → Except Error (List Char) :=
  Text.replaceM Text.isDecimal percent? writePercent

end SheetScript.Formula
