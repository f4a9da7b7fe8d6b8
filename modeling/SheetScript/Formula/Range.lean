import SheetScript.Column
import SheetScript.Error
import SheetScript.Text.Scan
import SheetScript.Text.Word

/-!
Sums over a range of one row: `SUM(A1:C1)` is written `A1+B1+C1`. The first character of each side
names a column; the row is what follows it on the left side.
-/

namespace SheetScript.Formula

def sumRange? : List Char → Option ((List Char × List Char) × Nat)
  | 'S' :: 'U' :: 'M' :: '(' :: cs =>
    let left := cs.takeWhile Text.isWord
    match cs.drop left.length with
    | ':' :: more =>
      let right := more.takeWhile Text.isWord
      match more.drop right.length with
      | ')' :: _ =>
        if left = [] ∨ right = [] then none
        else some ((left, right), left.length + right.length + 6)
      | _ => none
    | _ => none
  | _ => none

def sideColumn (side : List Char) : Except Error Nat :=
  match side.head?.bind Column.ofChar? with
  | some n => .ok n
  | none => .error (.columnName (String.ofList (side.take 1)))

def rowCells (row : List Char) (first count : Nat) : List (List Char) :=
  (List.range count).map fun i => Column.letters (first + i) ++ row

def writeSum : List Char × List Char → Except Error (List Char)
  | (left, right) => do
    let last ← sideColumn right
    let first ← sideColumn left
    return ['+'].intercalate (rowCells (left.drop 1) first (last + 1 - first))

def expandSums : List Char → Except Error (List Char) :=
  Text.replaceM Text.nowhere sumRange? writeSum

end SheetScript.Formula
