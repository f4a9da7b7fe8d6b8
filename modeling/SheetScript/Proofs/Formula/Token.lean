import Mathlib.Data.List.Chain
import Mathlib.Data.List.Infix
import Mathlib.Data.Fintype.Basic
import SheetScript.Text.Digit

namespace SheetScript.Formula

def digit (d : Fin 10) : Char := Char.ofNat (48 + d)

def letter (c : Fin 26) : Char := Char.ofNat (65 + c)

structure Numeral where
  digits : List (Fin 10)
  nonempty : digits ≠ []
deriving DecidableEq

def Numeral.text (n : Numeral) : List Char := n.digits.map digit

def Numeral.value (n : Numeral) : Nat := n.digits.foldl (fun v d => 10 * v + d) 0

def Plain (column : List (Fin 26)) : Prop :=
  ¬ "MIN".toList <:+: column.map letter ∧ ¬ "MAX".toList <:+: column.map letter

instance (column : List (Fin 26)) : Decidable (Plain column) :=
  inferInstanceAs (Decidable (_ ∧ _))

structure Reference where
  columnAnchor : Bool
  column : List (Fin 26)
  rowAnchor : Bool
  row : Numeral
  nonempty : column ≠ []
  plain : Plain column
deriving DecidableEq

def anchor : Bool → List Char
  | true => ['$']
  | false => []

namespace Reference

def text (r : Reference) : List Char :=
  anchor r.columnAnchor ++ (r.column.map letter ++ (anchor r.rowAnchor ++ r.row.text))

def name (r : Reference) : List Char := r.column.map letter ++ r.row.text

def short (c : Fin 26) (row : Numeral) : Reference where
  columnAnchor := false
  column := [c]
  rowAnchor := false
  row := row
  nonempty := List.cons_ne_nil _ _
  plain := ⟨fun h => by simpa using h.length_le, fun h => by simpa using h.length_le⟩

end Reference

structure Range where
  first : Fin 26
  last : Fin 26
  row : Numeral
  ordered : first ≤ last
deriving DecidableEq

namespace Range

def text (r : Range) : List Char :=
  "SUM(".toList ++ letter r.first :: (r.row.text ++ ':' :: letter r.last :: (r.row.text ++ [')']))

def later (r : Range) : List (Fin 26) :=
  (List.finRange 26).filter fun c => r.first < c ∧ c ≤ r.last

def cells (r : Range) : List Reference := (r.first :: r.later).map (.short · r.row)

end Range

inductive Extreme where
  | least
  | greatest
deriving DecidableEq

def Extreme.text : Extreme → List Char
  | least => "MIN(".toList
  | greatest => "MAX(".toList

inductive Operator where
  | plus
  | minus
  | times
  | divide
deriving DecidableEq

def Operator.char : Operator → Char
  | plus => '+'
  | minus => '-'
  | times => '*'
  | divide => '/'

inductive Token where
  | number (n : Numeral)
  | cell (r : Reference)
  | sum (r : Range)
  | call (f : Extreme)
  | operator (o : Operator)
  | comma
  | opening
  | closing
deriving DecidableEq

namespace Token

def text : Token → List Char
  | number n => n.text
  | cell r => r.text
  | sum r => r.text
  | call f => f.text
  | operator o => [o.char]
  | comma => [',']
  | opening => ['(']
  | closing => [')']

def isNumber : Token → Bool
  | number _ => true
  | _ => false

/-- Behind another number, a cell or a comma a number would be read as a part of it. -/
def Apart : Token → Token → Prop
  | number _, t | cell _, t | comma, t => t.isNumber = false
  | _, _ => True

def isSign : Token → Bool
  | operator _ | opening | closing => true
  | _ => false

theorem apart_sign {t : Token} (h : t.isSign = true) (u : Token) : Apart u t ∧ Apart t u := by
  cases t with
  | operator | opening | closing => cases u <;> exact ⟨by trivial, trivial⟩
  | _ => cases h

end Token

def render (ts : List Token) : List Char := ts.flatMap Token.text

theorem isDecimal_digit (d : Fin 10) : Text.isDecimal (digit d) = true := by
  revert d
  decide

theorem isDecimal_letter (c : Fin 26) : Text.isDecimal (letter c) = false := by
  revert c
  decide

theorem isUpper_letter (c : Fin 26) : (letter c).isUpper = true := by
  revert c
  decide

theorem isUpper_digit (d : Fin 10) : (digit d).isUpper = false := by
  revert d
  decide

end SheetScript.Formula
