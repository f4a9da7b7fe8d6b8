import SheetScript.Pattern.Fault
import SheetScript.Pattern.Syntax

namespace SheetScript.Pattern

namespace Width

def limit : Nat := 4294967295

/-- Keeps a width within what is counted. The least width stays below the limit, so that a width
that reaches the limit is not taken for a fixed one. -/
def capped (least most : Nat) : Width := ⟨min least (limit - 1), min most limit⟩

def zero : Width := ⟨0, 0⟩

def one : Width := ⟨1, 1⟩

def add (a b : Width) : Width := capped (a.least + b.least) (a.most + b.most)

def either (a b : Width) : Width := ⟨min a.least b.least, max a.most b.most⟩

def times (w : Width) (lo : Nat) (hi : Option Nat) : Width :=
  capped (w.least * lo) (w.most * hi.getD limit)

end Width

def Node.width (groups : Nat → Width) : Node → Width
  | .empty | .anchor _ | .ahead .. | .behind .. => .zero
  | .char .. | .other .. | .any _ | .oneOf .. => .one
  | .backref _ g => groups g
  | .cat a b => (a.width groups).add (b.width groups)
  | .alt a b | .given _ a b => (a.width groups).either (b.width groups)
  | .group _ body | .atomic body | .scope body => body.width groups
  | .repeated lo hi _ body => (body.width groups).times lo hi

def Node.anyBehind (holds : Width → Bool) : Node → Bool
  | .empty | .char .. | .other .. | .any _ | .oneOf .. | .anchor _ | .backref .. => false
  | .cat a b | .alt a b | .given _ a b => a.anyBehind holds || b.anyBehind holds
  | .group _ body | .repeated _ _ _ body | .ahead _ body | .atomic body | .scope body =>
    body.anyBehind holds
  | .behind _ width body => holds width || body.anyBehind holds

def maxBehind : Nat := 2147483647

def Node.behindError? (n : Node) : Option Error :=
  if n.anyBehind fun w => w.least ≠ w.most then some .unevenBehind
  else if n.anyBehind fun w => maxBehind < w.least then some .farBehind
  else none

end SheetScript.Pattern
