import SheetScript.Text.Digit
import SheetScript.Text.Scan

namespace SheetScript.Formula

def reference? (cs : List Char) : Option (List Char × Nat) :=
  let column := cs.takeWhile Char.isUpper
  let after := cs.drop column.length
  let anchor := after.takeWhile (· = '$') |>.take 1
  let row := (after.drop anchor.length).takeWhile Text.isDecimal
  if column = [] ∨ row = [] then none
  else some (column ++ row, column.length + anchor.length + row.length)

def references (formula : List Char) : List String :=
  (Text.finds Char.isUpper reference? formula).map String.ofList

end SheetScript.Formula
