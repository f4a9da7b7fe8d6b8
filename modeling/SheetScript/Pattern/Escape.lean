import SheetScript.Pattern.Fault
import SheetScript.Pattern.Syntax
import SheetScript.Text.CharName

namespace SheetScript.Pattern

def sign : List Char → List Char
  | '\\' :: c :: _ => ['\\', c]
  | c :: _ => [c]
  | [] => []

def upTo (mark : Char) : List Char → Option (List Char)
  | [] => none
  | '\\' :: c :: rest => (upTo mark rest).map ('\\' :: c :: ·)
  | c :: rest => if c = mark then some [] else (upTo mark rest).map (c :: ·)

def nameUpTo (mark : Char) (what : String) (cs : List Char) : Except Fault (List Char) :=
  match upTo mark cs with
  | some [] => .error (.misread (.missingName what) cs.length)
  | some name => .ok name
  | none => .error (.misread (if cs = [] then .missingName what else .openName mark) cs.length)

def hexValue? (c : Char) : Option Nat :=
  if c.isDigit then some (c.toNat - 48)
  else if 'a' ≤ c ∧ c ≤ 'f' then some (c.toNat - 87)
  else if 'A' ≤ c ∧ c ≤ 'F' then some (c.toNat - 55)
  else none

def isOctal (c : Char) : Bool := '0' ≤ c && c ≤ '7'

def valueIn (base : Nat) (digits : List Char) : Nat :=
  digits.foldl (fun n c => base * n + (hexValue? c).getD 0) 0

def escaped (cs : List Char) : String := String.ofList ('\\' :: cs)

def control? : Char → Option Nat
  | 'a' => some 7
  | 'f' => some 12
  | 'n' => some 10
  | 'r' => some 13
  | 't' => some 9
  | 'v' => some 11
  | _ => none

def kind? (narrow : Bool) : Char → Option ClassItem
  | 'd' => some (.kind .digit narrow false)
  | 'D' => some (.kind .digit narrow true)
  | 's' => some (.kind .blank narrow false)
  | 'S' => some (.kind .blank narrow true)
  | 'w' => some (.kind .word narrow false)
  | 'W' => some (.kind .word narrow true)
  | _ => none

def anchor? (narrow : Bool) : Char → Option Anchor
  | 'A' => some .textStart
  | 'Z' => some .textEnd
  | 'b' => some (.boundary narrow)
  | 'B' => some (.inside narrow)
  | _ => none

def hexWidth? : Char → Option Nat
  | 'x' => some 2
  | 'u' => some 4
  | 'U' => some 8
  | _ => none

def hexCode (left : Nat) (c : Char) (width : Nat) (rest : List Char) : Except Fault (Nat × Nat) :=
  let digits := (rest.take width).takeWhile fun d => (hexValue? d).isSome
  let value := valueIn 16 digits
  if digits.length < width then
    .error (.misread (.incompleteEscape (escaped (c :: digits))) left)
  else if 0x10FFFF < value then .error (.misread (.badEscape (escaped (c :: digits))) left)
  else .ok (value, width + 2)

def octalCode (left : Nat) (digits : List Char) : Except Fault (Nat × Nat) :=
  let value := valueIn 8 digits
  if 0o377 < value then .error (.misread (.octalRange (escaped digits)) left)
  else .ok (value, digits.length + 1)

def namedCode (left : Nat) : List Char → Except Fault (Nat × Nat)
  | '\x7b' :: rest => do
    let name ← nameUpTo '\x7d' "character name" rest
    match Text.charNamed? name with
    | some code => return (code, name.length + 4)
    | none => .error (.misread (.unknownChar (String.ofList name)) left)
  | rest => .error (.misread .missingBrace rest.length)

/-- The code point that `\c` stands for, and how many characters the escape covers. Letters without
a meaning are refused; all else stands for itself. -/
def charEscape (left : Nat) (c : Char) (rest : List Char) : Except Fault (Nat × Nat) :=
  match control? c, hexWidth? c with
  | some code, _ => .ok (code, 2)
  | none, some width => hexCode left c width rest
  | none, none =>
    if c = 'N' then namedCode left rest
    else if c.isAlphanum then .error (.misread (.badEscape (escaped [c])) left)
    else .ok (c.toNat, 2)

end SheetScript.Pattern
