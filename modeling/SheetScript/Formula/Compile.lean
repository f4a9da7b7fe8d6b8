import SheetScript.Formula.Percent
import SheetScript.Formula.Range

namespace SheetScript.Formula

def nameFunctions (cs : List Char) : List Char :=
  Text.replaceText "MAX".toList "Math.max".toList
    (Text.replaceText "MIN".toList "Math.min".toList cs)

def decimalComma? (cs : List Char) : Option ((List Char × List Char) × Nat) :=
  let whole := cs.takeWhile Text.isDecimal
  match cs.drop whole.length with
  | ',' :: more =>
    let part := more.takeWhile Text.isDecimal
    if whole = [] ∨ part = [] then none
    else some ((whole, part), whole.length + part.length + 1)
  | _ => none

def pointDecimals : List Char → List Char :=
  Text.replace Text.isDecimal decimalComma? fun (whole, part) => whole ++ '.' :: part

def dropAnchors (cs : List Char) : List Char := cs.filter (· ≠ '$')

def compileChars (cs : List Char) : Except Error (List Char) := do
  let cs ← expandCommaPercents cs
  let cs ← expandPercents cs
  let cs ← expandSums cs
  return dropAnchors (pointDecimals (nameFunctions cs))

def compile (formula : String) : Except Error String := do
  return String.ofList (← compileChars formula.toList)

end SheetScript.Formula
