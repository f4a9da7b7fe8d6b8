import SheetScript.Pattern.Fault
import SheetScript.Pattern.Syntax
import SheetScript.Text.Letter

namespace SheetScript.Pattern

structure Mode where
  ignoreCase : Bool := false
  multiline : Bool := false
  dotAll : Bool := false
  verbose : Bool := false
  narrow : Bool := false

def Mode.folding (m : Mode) : Folding :=
  if !m.ignoreCase then .exact else if m.narrow then .ascii else .full

inductive Flag where
  | ignoreCase
  | locale
  | multiline
  | dotAll
  | verbose
  | ascii
  | template
  | unicode
deriving DecidableEq

def Flag.ofChar? : Char → Option Flag
  | 'i' => some .ignoreCase
  | 'L' => some .locale
  | 'm' => some .multiline
  | 's' => some .dotAll
  | 'x' => some .verbose
  | 'a' => some .ascii
  | 't' => some .template
  | 'u' => some .unicode
  | _ => none

def Flag.isAlphabet (f : Flag) : Bool := f = .ascii || f = .locale || f = .unicode

structure Change where
  on : List Flag
  off : List Flag

def Change.none : Change := ⟨[], []⟩

def Change.isNone (c : Change) : Bool := c.on.isEmpty && c.off.isEmpty

def Mode.change (m : Mode) (c : Change) : Mode :=
  let apply (f : Flag) (old : Bool) : Bool := (old || c.on.contains f) && !c.off.contains f
  { ignoreCase := apply .ignoreCase m.ignoreCase
    multiline := apply .multiline m.multiline
    dotAll := apply .dotAll m.dotAll
    verbose := apply .verbose m.verbose
    narrow := if c.on.any Flag.isAlphabet then c.on.contains .ascii else m.narrow }

def flagFault {α : Type} (f : FlagFault) (left : Nat) : Except Fault α :=
  .error (.misread (.flags f) left)

def notFlag (c : Char) (f : FlagFault) : FlagFault := if Text.isLetter c then .unknown else f

def addFlag (on : List Flag) (f : Flag) (left : Nat) : Except Fault (List Flag) :=
  if f = .locale then flagFault .bytesOnly left
  else if f.isAlphabet && on.any fun g => g.isAlphabet && g ≠ f then flagFault .incompatible left
  else .ok (on ++ [f])

def flagsOn (on : List Flag) : List Char → Except Fault (List Flag × List Char)
  | [] => flagFault .unfinished 0
  | c :: rest =>
    if c = ')' ∨ c = ':' ∨ c = '-' then .ok (on, c :: rest)
    else
      match Flag.ofChar? c with
      | none => flagFault (notFlag c .unfinished) (rest.length + 1)
      | some f => do flagsOn (← addFlag on f rest.length) rest

def flagsOff (off : List Flag) : List Char → Except Fault (List Flag × List Char)
  | [] => flagFault .missingColon 0
  | c :: rest =>
    if c = ':' then .ok (off, c :: rest)
    else
      match Flag.ofChar? c with
      | none => flagFault (notFlag c .missingColon) (rest.length + 1)
      | some f =>
        if f.isAlphabet then flagFault .fixed rest.length else flagsOff (off ++ [f]) rest

def changeOff (on : List Flag) : List Char → Except Fault (Change × Nat)
  | [] => flagFault .missing 0
  | c :: more =>
    match Flag.ofChar? c with
    | none => flagFault (notFlag c .missing) (more.length + 1)
    | some _ => do
      let (off, rest) ← flagsOff [] (c :: more)
      if off.contains .template then flagFault .wholeOff rest.length
      else if on.any off.contains then flagFault .onAndOff rest.length
      else return (⟨on, off⟩, rest.length - 1)

/-- The change that is written at the start of a text, and how much text is left behind it. Flags
for the pattern as a whole would have to stand at its start, where `start` characters are still to
come, and are refused elsewhere. -/
def readChange (start : Nat) : List Char → Except Fault (Change × Nat)
  | [] => flagFault .missing 0
  | c :: more =>
    match Flag.ofChar? c with
    | none => changeOff [] more
    | some _ => do
      match ← flagsOn [] (c :: more) with
      | (on, mark :: rest) =>
        if mark = ')' then flagFault .late start
        else if on.contains .template then flagFault .wholeOn (rest.length + 1)
        else if mark = '-' then changeOff on rest
        else return (⟨on, []⟩, rest.length)
      | (_, []) => flagFault .unfinished 0

end SheetScript.Pattern
