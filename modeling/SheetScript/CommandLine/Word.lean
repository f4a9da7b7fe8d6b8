import SheetScript.CommandLine.Flag
import SheetScript.Text.Digit

namespace SheetScript.CommandLine

/-- The value of a flag is the part of the same argument that stands right behind a short flag or
after an equals sign. -/
inductive Word where
  | operand (text : String)
  | terminator
  | flag (f : Flag) (short : Bool) (value : Option (List Char))
  | unknown (text : String)

def cutAtSign (cs : List Char) : List Char × Option (List Char) :=
  let name := cs.takeWhile (· ≠ '=')
  match cs.drop name.length with
  | [] => (name, none)
  | _ :: value => (name, some value)

/-- A minus sign and digits, with a point in front of the last digits or none; a final line break
counts for nothing. -/
def isNegativeNumber (cs : List Char) : Bool :=
  let body := if cs.getLast? = some '\n' then cs.dropLast else cs
  let isDigits (ds : List Char) : Bool := !ds.isEmpty && ds.all Text.isDecimal
  match body with
  | '-' :: rest =>
    let whole := rest.takeWhile Text.isDecimal
    match rest.drop whole.length with
    | [] => isDigits whole
    | '.' :: part => isDigits part
    | _ => false
  | _ => false

def exactFlag? (cs : List Char) : Option Word :=
  let isShort := cs.drop 1 |>.head? |>.any (· ≠ '-')
  match Flag.ofName? cs, cutAtSign cs with
  | some f, _ => some (.flag f isShort none)
  | none, (name, some value) =>
    (Flag.ofName? name).map fun f => .flag f isShort (some value)
  | none, (_, none) => none

def abbreviated (cs : List Char) : List Flag :=
  Flag.all.filter fun f => (cutAtSign cs).1.isPrefixOf f.long.toList

def unflagged (argument : String) : Word :=
  if isNegativeNumber argument.toList || argument.toList.contains ' ' then .operand argument
  else .unknown argument

def understand (argument : String) : Except Refusal Word :=
  match argument.toList with
  | '-' :: c :: rest =>
    match exactFlag? ('-' :: c :: rest) with
    | some word => .ok word
    | none =>
      if c = '-' then
        match abbreviated ('-' :: c :: rest) with
        | [] => .ok (unflagged argument)
        | [f] => .ok (.flag f false (cutAtSign rest).2)
        | fs => .error (.ambiguous argument fs)
      else
        match Flag.ofShort? c with
        | some f => .ok (.flag f true (some rest))
        | none => .ok (unflagged argument)
  | _ => .ok (.operand argument)

def understandAll : List String → Except Refusal (List Word)
  | [] => .ok []
  | argument :: rest =>
    if argument = "--" then .ok (.terminator :: rest.map .operand)
    else do
      let word ← understand argument
      return word :: (← understandAll rest)

end SheetScript.CommandLine
