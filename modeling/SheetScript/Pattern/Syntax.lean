namespace SheetScript.Pattern

/-- How characters are compared: as they are, or without regard to case among the letters from A to
Z or among all letters. -/
inductive Folding where
  | exact
  | ascii
  | full
deriving DecidableEq

inductive CharKind where
  | digit
  | blank
  | word
deriving DecidableEq

inductive ClassItem where
  | char (code : Nat)
  | range (lo hi : Nat)
  | kind (k : CharKind) (narrow negated : Bool)
deriving DecidableEq

/-- Places that a pattern can ask for. `lastLine` is the end of the text or the place before a line
break that ends it. Boundaries of words depend on which characters make words. -/
inductive Anchor where
  | textStart
  | textEnd
  | lastLine
  | lineStart
  | lineEnd
  | boundary (narrow : Bool)
  | inside (narrow : Bool)
deriving DecidableEq

/-- `greedy` tries more repetitions first and `lazy` fewer; `possessive` keeps what it took. -/
inductive Greed where
  | greedy
  | lazy
  | possessive
deriving DecidableEq

structure Width where
  least : Nat
  most : Nat
deriving DecidableEq

inductive Node where
  | empty
  | char (folding : Folding) (code : Nat)
  | other (folding : Folding) (code : Nat)
  | any (breaks : Bool)
  | oneOf (folding : Folding) (negated : Bool) (items : List ClassItem)
  | anchor (a : Anchor)
  | backref (folding : Folding) (group : Nat)
  | cat (a b : Node)
  | alt (a b : Node)
  | group (index : Nat) (body : Node)
  | repeated (lo : Nat) (hi : Option Nat) (greed : Greed) (body : Node)
  | ahead (negated : Bool) (body : Node)
  | behind (negated : Bool) (width : Width) (body : Node)
  | atomic (body : Node)
  | scope (body : Node)
  | given (group : Nat) (yes no : Node)
deriving DecidableEq

namespace Node

def ofItems : List Node → Node
  | [] => .empty
  | [n] => n
  | n :: ns => .cat n (ofItems ns)

def ofBranches : List Node → Node
  | [] => .empty
  | [b] => b
  | b :: bs => .alt b (ofBranches bs)

def hasGroup (index : Nat) : Node → Bool
  | .empty | .char .. | .other .. | .any _ | .oneOf .. | .anchor _ | .backref .. => false
  | .cat a b | .alt a b | .given _ a b => a.hasGroup index || b.hasGroup index
  | .group i body => i = index || body.hasGroup index
  | .repeated _ _ _ body | .ahead _ body | .behind _ _ body | .atomic body | .scope body =>
    body.hasGroup index

end Node

end SheetScript.Pattern

namespace SheetScript

/-- A pattern that is searched for. `least` is the number of characters that its parts take at
least, as they are written, and `startsWithChar` says that every branch begins with a given
character. -/
structure Pattern where
  body : Pattern.Node
  least : Nat
  startsWithChar : Bool

end SheetScript
