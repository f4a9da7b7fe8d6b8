import SheetScript.Pattern.CharClass
import SheetScript.Pattern.Mode
import SheetScript.Text.Blank
import SheetScript.Text.Identifier

namespace SheetScript.Pattern

inductive GroupRef where
  | number (index : Nat)
  | name (name : String)

inductive Opening where
  | capture (name : Option String)
  | plain (change : Change)
  | look (behind negated : Bool)
  | atomic
  | given (group : GroupRef)

inductive Token where
  | item (n : Node)
  | reference (group : GroupRef)
  | opened (o : Opening)
  | closed
  | bar
  | times (lo : Nat) (hi : Option Nat) (greed : Greed)
  | comment

def greedOf : List Char → Greed × Nat
  | '?' :: _ => (.lazy, 1)
  | '+' :: _ => (.possessive, 1)
  | _ => (.greedy, 0)

def timesToken (lo : Nat) (hi : Option Nat) (width : Nat) (after : List Char) : Token × Nat :=
  let (greed, n) := greedOf after
  (.times lo hi greed, width + n)

/-- The digits of the bounds written after an opening brace, and how many characters they cover
together with the closing brace. A single bound is both. -/
def bounds? (cs : List Char) : Option (List Char × List Char × Nat) :=
  let lo := cs.takeWhile Char.isDigit
  match cs.drop lo.length with
  | '\x7d' :: _ => if lo.isEmpty then none else some (lo, lo, lo.length + 1)
  | ',' :: rest =>
    let hi := rest.takeWhile Char.isDigit
    match rest.drop hi.length with
    | '\x7d' :: _ => some (lo, hi, lo.length + hi.length + 2)
    | _ => none
  | _ => none

def boundLimit : Nat := 4294967295

def bound (digits : List Char) : Except Fault (Option Nat) :=
  let n := valueIn 10 digits
  if digits.isEmpty then .ok none
  else if Literal.maxDigits < digits.length then .error (.digitLimit digits.length)
  else if boundLimit ≤ n then .error .repetitionLimit
  else .ok (some n)

def braceToken (m : Mode) (rest : List Char) : Except Fault (Token × Nat) :=
  match bounds? rest with
  | none => .ok (.item (.char m.folding 0x7B), 1)
  | some (lo, hi, n) => do
    let lo := (← bound lo).getD 0
    let hi ← bound hi
    if hi.any (· < lo) then .error (.misread .reversedBounds rest.length)
    else return timesToken lo hi (n + 1) (rest.drop n)

def groupName (mark : Char) (cs : List Char) : Except Fault String := do
  let name ← nameUpTo mark "group name" cs
  if Text.isIdentifier name then return String.ofList name
  else .error (.misread (.groupName (String.ofList name)) cs.length)

def looseDigits? : List Char → Option (List Char)
  | [] => none
  | [c] => if Text.isDecimal c then some [c] else none
  | c :: '_' :: rest => if Text.isDecimal c then (looseDigits? rest).map (c :: ·) else none
  | c :: rest => if Text.isDecimal c then (looseDigits? rest).map (c :: ·) else none

def groupNumber? (cs : List Char) : Option Nat := do
  let blank (c : Char) : Bool := Text.isBlank c && !('\x1c' ≤ c && c ≤ '\x1f')
  let core := ((cs.dropWhile blank).reverse.dropWhile blank).reverse
  let (negative, body) := match core with
    | '-' :: rest => (true, rest)
    | '+' :: rest => (false, rest)
    | rest => (false, rest)
  let digits ← looseDigits? body
  let n := Text.digitsValue digits
  if Literal.maxDigits < digits.length ∨ (negative ∧ n ≠ 0) then none else some n

def groupLimit : Nat := 1073741823

def choiceGroup (cs : List Char) : Except Fault (GroupRef × Nat) := do
  let name ← nameUpTo ')' "group name" cs
  if Text.isIdentifier name then return (.name (String.ofList name), name.length)
  else
    match groupNumber? name with
    | none => .error (.misread (.groupName (String.ofList name)) cs.length)
    | some 0 => .error (.misread .groupNumber cs.length)
    | some n =>
      if groupLimit ≤ n then .error (.misread (.unknownGroup n) cs.length)
      else return (.number n, name.length)

def unknownExtension (lead : List Char) (rest : List Char) (left : Nat) :
    Except Fault (Token × Nat) :=
  if rest = [] then .error (.misread .endOfPattern 0)
  else .error (.misread (.unknownExtension (String.ofList (lead ++ sign rest))) left)

def extension (rest : List Char) : Except Fault (Token × Nat) :=
  match rest with
  | ':' :: _ => .ok (.opened (.plain .none), 3)
  | '=' :: _ => .ok (.opened (.look false false), 3)
  | '!' :: _ => .ok (.opened (.look false true), 3)
  | '<' :: '=' :: _ => .ok (.opened (.look true false), 4)
  | '<' :: '!' :: _ => .ok (.opened (.look true true), 4)
  | '>' :: _ => .ok (.opened .atomic, 3)
  | '#' :: more =>
    match upTo ')' more with
    | some text => .ok (.comment, text.length + 4)
    | none => .error (.misread .openComment (rest.length + 2))
  | 'P' :: '<' :: more => do
    let name ← groupName '>' more
    return (.opened (.capture (some name)), name.length + 5)
  | 'P' :: '=' :: more => do
    let name ← groupName ')' more
    return (.reference (.name name), name.length + 5)
  | 'P' :: more => unknownExtension ['P'] more (rest.length + 1)
  | '<' :: more => unknownExtension ['<'] more (rest.length + 1)
  | '(' :: more => do
    let (group, n) ← choiceGroup more
    return (.opened (.given group), n + 4)
  | _ =>
    if rest.head?.any fun c => c = '-' || (Flag.ofChar? c).isSome then do
      let (change, left) ← readChange (rest.length + 2) rest
      return (.opened (.plain change), rest.length + 2 - left)
    else unknownExtension [] rest (rest.length + 1)

/-- An escape outside a class that starts with the digit `c`: a character by up to three octal
digits when it starts with zero or has three of them, and else a group. -/
def numberEscape (m : Mode) (left : Nat) (c : Char) (rest : List Char) :
    Except Fault (Token × Nat) :=
  let octal := c :: (rest.take 2).takeWhile isOctal
  if c = '0' ∨ (isOctal c ∧ octal.length = 3) then do
    let (code, n) ← octalCode left octal
    return (.item (.char m.folding code), n)
  else
    let digits := c :: (rest.take 1).takeWhile Char.isDigit
    .ok (.reference (.number (valueIn 10 digits)), digits.length + 1)

def escapeToken (m : Mode) (left : Nat) (c : Char) (rest : List Char) :
    Except Fault (Token × Nat) :=
  match kind? m.narrow c, anchor? m.narrow c with
  | some item, _ => .ok (.item (.oneOf m.folding false [item]), 2)
  | none, some a => .ok (.item (.anchor a), 2)
  | none, none =>
    if c.isDigit then numberEscape m left c rest
    else do
      let (code, n) ← charEscape left c rest
      return (.item (.char m.folding code), n)

def classNode (folding : Folding) (negated : Bool) : List ClassItem → Node
  | [.char code] => if negated then .other folding code else .char folding code
  | items => .oneOf folding negated items

def classToken (m : Mode) (rest : List Char) : Except Fault (Token × Nat) := do
  let start := rest.length + 1
  let (negated, body) := match rest with
    | '^' :: more => (true, more)
    | _ => (false, rest)
  let (items, after) ← classItems m.narrow start [] body
  return (.item (classNode m.folding negated items.eraseDups), start - after.length)

def skipped? (m : Mode) (c : Char) (rest : List Char) : Option Nat :=
  if !m.verbose then none
  else if c ∈ [' ', '\t', '\n', '\r', '\x0b', '\x0c'] then some 1
  else if c = '#' then some (((upTo '\n' rest).map (·.length + 2)).getD (rest.length + 1))
  else none

def plainToken (m : Mode) (c : Char) (rest : List Char) : Except Fault (Token × Nat) :=
  match c with
  | '\\' =>
    match rest with
    | [] => .error (.misread .endInEscape 1)
    | d :: more => escapeToken m (more.length + 2) d more
  | '[' => classToken m rest
  | '.' => .ok (.item (.any m.dotAll), 1)
  | '^' => .ok (.item (.anchor (if m.multiline then .lineStart else .textStart)), 1)
  | '$' => .ok (.item (.anchor (if m.multiline then .lineEnd else .lastLine)), 1)
  | '|' => .ok (.bar, 1)
  | ')' => .ok (.closed, 1)
  | '*' => .ok (timesToken 0 none 1 rest)
  | '+' => .ok (timesToken 1 none 1 rest)
  | '?' => .ok (timesToken 0 (some 1) 1 rest)
  | '\x7b' => braceToken m rest
  | '(' =>
    match rest with
    | '?' :: more => extension more
    | _ => .ok (.opened (.capture none), 1)
  | _ => .ok (.item (.char m.folding c.toNat), 1)

def token (m : Mode) (c : Char) (rest : List Char) : Except Fault (Token × Nat) :=
  match skipped? m c rest with
  | some n => .ok (.comment, n)
  | none => plainToken m c rest

end SheetScript.Pattern
