import SheetScript.Literal
import SheetScript.Text.Quoted

namespace SheetScript.Pattern

inductive FlagFault where
  | unknown
  | unfinished
  | missing
  | missingColon
  | bytesOnly
  | incompatible
  | fixed
  | wholeOn
  | wholeOff
  | onAndOff
  | late
deriving DecidableEq

def FlagFault.message : FlagFault → String
  | unknown => "unknown flag"
  | unfinished => "missing -, : or )"
  | missing => "missing flag"
  | missingColon => "missing :"
  | bytesOnly => "bad inline flags: cannot use 'L' flag with a str pattern"
  | incompatible => "bad inline flags: flags 'a', 'u' and 'L' are incompatible"
  | fixed => "bad inline flags: cannot turn off flags 'a', 'u' and 'L'"
  | wholeOn => "bad inline flags: cannot turn on global flag"
  | wholeOff => "bad inline flags: cannot turn off global flag"
  | onAndOff => "bad inline flags: flag turned on and off"
  | late => "global flags not at the start of the expression"

inductive Cause where
  | unbalanced
  | openGroup
  | openClass
  | openComment
  | endOfPattern
  | endInEscape
  | unknownExtension (text : String)
  | nothingToRepeat
  | multipleRepeat
  | reversedBounds
  | badRange (lo hi : String)
  | badEscape (text : String)
  | incompleteEscape (text : String)
  | octalRange (text : String)
  | groupStillOpen
  | groupBehind
  | unknownGroup (index : Nat)
  | groupNumber
  | groupName (name : String)
  | unknownName (name : String)
  | repeatedName (name : String) (index earlier : Nat)
  | thirdBranch
  | missingName (what : String)
  | openName (mark : Char)
  | missingBrace
  | unknownChar (name : String)
  | flags (f : FlagFault)
deriving DecidableEq

def Cause.message : Cause → String
  | .unbalanced => "unbalanced parenthesis"
  | .openGroup => "missing ), unterminated subpattern"
  | .openClass => "unterminated character set"
  | .openComment => "missing ), unterminated comment"
  | .endOfPattern => "unexpected end of pattern"
  | .endInEscape => "bad escape (end of pattern)"
  | .unknownExtension text => "unknown extension ?" ++ text
  | .nothingToRepeat => "nothing to repeat"
  | .multipleRepeat => "multiple repeat"
  | .reversedBounds => "min repeat greater than max repeat"
  | .badRange lo hi => "bad character range " ++ lo ++ "-" ++ hi
  | .badEscape text => "bad escape " ++ text
  | .incompleteEscape text => "incomplete escape " ++ text
  | .octalRange text => "octal escape value " ++ text ++ " outside of range 0-0o377"
  | .groupStillOpen => "cannot refer to an open group"
  | .groupBehind => "cannot refer to group defined in the same lookbehind subpattern"
  | .unknownGroup index => "invalid group reference " ++ Literal.ofNat index
  | .groupNumber => "bad group number"
  | .groupName name => "bad character in group name " ++ Text.quote name
  | .unknownName name => "unknown group name " ++ Text.quote name
  | .repeatedName name index earlier =>
    "redefinition of group name " ++ Text.quote name ++ " as group " ++ Literal.ofNat index
      ++ "; was group " ++ Literal.ofNat earlier
  | .thirdBranch => "conditional backref with more than two branches"
  | .missingName what => "missing " ++ what
  | .openName mark => "missing " ++ String.singleton mark ++ ", unterminated name"
  | .missingBrace => "missing \x7b"
  | .unknownChar name => "undefined character name " ++ Text.quote name
  | .flags f => f.message

inductive Error where
  | misread (cause : Cause) (position : Nat) (lineColumn : Option (Nat × Nat))
  | unevenBehind
  | farBehind
  | repetitionLimit
  | digitLimit (digits : Nat)
deriving DecidableEq

def Error.message : Error → String
  | misread cause position lineColumn =>
    let place := cause.message ++ " at position " ++ Literal.ofNat position
    match lineColumn with
    | none => place
    | some (line, column) =>
      place ++ " (line " ++ Literal.ofNat line ++ ", column " ++ Literal.ofNat column ++ ")"
  | unevenBehind => "look-behind requires fixed-width pattern"
  | farBehind => "invalid SRE code"
  | repetitionLimit => "the repetition number is too large"
  | digitLimit digits => Literal.overlong digits

/-- What is found while a pattern is read. A place is given by how many characters are still to
come. -/
inductive Fault where
  | misread (cause : Cause) (left : Nat)
  | repetitionLimit
  | digitLimit (digits : Nat)
deriving DecidableEq

def Fault.locate (pattern : List Char) : Fault → Error
  | .misread cause left =>
    let position := pattern.length - left
    let before := pattern.take position
    .misread cause position <|
      if '\n' ∈ pattern then
        some (before.count '\n' + 1, (before.reverse.takeWhile (· ≠ '\n')).length + 1)
      else none
  | .repetitionLimit => .repetitionLimit
  | .digitLimit digits => .digitLimit digits

end SheetScript.Pattern
