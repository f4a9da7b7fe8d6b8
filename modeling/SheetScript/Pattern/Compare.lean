import SheetScript.Pattern.Place
import SheetScript.Pattern.Syntax
import SheetScript.Text.Blank
import SheetScript.Text.Case
import SheetScript.Text.Digit
import SheetScript.Text.Word

namespace SheetScript.Pattern

namespace Folding

def family : Folding → Nat → List Nat
  | exact, n => [n]
  | ascii, n => Text.asciiFamily n
  | full, n => Text.caseFamily n

def lower : Folding → Nat → Nat
  | exact, n => n
  | ascii, n => Text.asciiLower n
  | full, n => Text.lower n

def upper : Folding → Nat → Nat
  | exact, n => n
  | ascii, n | full, n => Text.upper n

def allows (folding : Folding) (code : Nat) (c : Char) : Bool :=
  (folding.family c.toNat).contains code

def same (folding : Folding) (a b : Char) : Bool := folding.lower a.toNat = folding.lower b.toNat

end Folding

def isWordChar (narrow : Bool) (c : Char) : Bool :=
  if narrow then c.isAlphanum || c = '_' else Text.isWord c

def CharKind.holds (narrow : Bool) (c : Char) : CharKind → Bool
  | .digit => if narrow then c.isDigit else Text.isDecimal c
  | .blank => Text.isBlank c && !(narrow && (127 < c.toNat || ('\x1c' ≤ c && c ≤ '\x1f')))
  | .word => isWordChar narrow c

/-- The last code point of the first plane. In a class, letters of the first plane stand for their
whole families; beyond it a letter stands for itself as a small letter, and a range for the small
letters whose capitals it holds as well. -/
def firstPlane : Nat := 0xFFFF

def ClassItem.holds (folding : Folding) (c : Char) : ClassItem → Bool
  | .char code =>
    if code ≤ firstPlane then folding.allows code c else code = folding.lower c.toNat
  | .range lo hi =>
    let small := folding.lower c.toNat
    let within (n : Nat) : Bool := lo ≤ n && n ≤ hi
    (folding.family c.toNat).any (fun n => within n && n ≤ firstPlane) ||
      (firstPlane < hi && (within small || within (folding.upper small)))
  | .kind k narrow negated => k.holds narrow c != negated

def Node.allowed? : Node → Option (Char → Bool)
  | .char folding code => some (folding.allows code)
  | .other folding code => some (fun c => !folding.allows code c)
  | .any breaks => some (fun c => breaks || c ≠ '\n')
  | .oneOf folding negated items => some (fun c => items.any (·.holds folding c) != negated)
  | .scope body => body.allowed?
  | _ => none

def atWord (narrow : Bool) (side : List Char) : Bool := side.head?.any (isWordChar narrow)

def Anchor.holds (s : Place) : Anchor → Bool
  | .textStart => s.before.isEmpty
  | .textEnd => s.rest.isEmpty
  | .lastLine => s.rest.isEmpty || s.rest = ['\n']
  | .lineStart => s.before.isEmpty || s.before.head? = some '\n'
  | .lineEnd => s.rest.isEmpty || s.rest.head? = some '\n'
  | .boundary narrow => atWord narrow s.before != atWord narrow s.rest
  | .inside narrow =>
    atWord narrow s.before == atWord narrow s.rest && !(s.before.isEmpty && s.rest.isEmpty)

end SheetScript.Pattern
