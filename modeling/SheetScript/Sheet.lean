import SheetScript.Column
import SheetScript.Error
import SheetScript.Value

namespace SheetScript

structure Sheet where
  rows : List (List Value)

structure Position where
  column : Nat
  row : Nat
  value : Value

namespace Sheet

def positions (s : Sheet) : List Position :=
  (s.rows.zipIdx 1).flatMap fun (cells, row) =>
    (cells.zipIdx 1).map fun (value, column) => ⟨column, row, value⟩

def padTo {α : Type} (n : Nat) (a : α) (l : List α) : List α :=
  l ++ List.replicate (n - l.length) a

def set (s : Sheet) (row column : Nat) (value : Value) : Sheet :=
  ⟨(padTo row [] s.rows).modify (row - 1) fun cells =>
    (padTo column .blank cells).set (column - 1) value⟩

end Sheet

def Position.name (p : Position) : Except Error String :=
  match Column.name? p.column with
  | some letters => .ok (letters ++ Literal.ofNat p.row)
  | none => .error (.columnNumber p.column)

end SheetScript
