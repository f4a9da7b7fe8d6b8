import SheetScript.Text.Quoted

namespace SheetScript.CommandLine

inductive Flag where
  | help
  | compute
  | formula
  | output
  | dependencies
  | dependants
deriving DecidableEq

inductive Arity where
  | nothing
  | one
  | atMostOne
deriving DecidableEq

namespace Flag

def all : List Flag := [help, compute, formula, output, dependencies, dependants]

def short : Flag → Char
  | help => 'h'
  | compute => 'c'
  | formula => 'f'
  | output => 'o'
  | dependencies => 'd'
  | dependants => 's'

def long : Flag → String
  | help => "--help"
  | compute => "--compute"
  | formula => "--formula"
  | output => "--output"
  | dependencies => "--show-dependencies"
  | dependants => "--show-dependants"

def arity : Flag → Arity
  | help => .nothing
  | dependencies => .atMostOne
  | _ => .one

def shown (f : Flag) : String := String.ofList ['-', f.short] ++ "/" ++ f.long

def ofShort? (c : Char) : Option Flag := all.find? (·.short = c)

def ofName? : List Char → Option Flag
  | ['-', c] => if c = '-' then none else ofShort? c
  | cs => all.find? (·.long.toList = cs)

end Flag

inductive Refusal where
  | ambiguous (argument : String) (candidates : List Flag)
  | unusedValue (f : Flag) (value : String)
  | missingValue (f : Flag)
  | missingFile
  | unknown (arguments : List String)
deriving DecidableEq

def Refusal.message : Refusal → String
  | ambiguous argument candidates =>
    "ambiguous option: " ++ argument ++ " could match "
      ++ ", ".intercalate (candidates.map Flag.long)
  | unusedValue f value =>
    "argument " ++ f.shown ++ ": ignored explicit argument " ++ Text.quote value
  | missingValue f => "argument " ++ f.shown ++ ": expected one argument"
  | missingFile => "the following arguments are required: excel_file"
  | unknown arguments => "unrecognized arguments: " ++ " ".intercalate arguments

end SheetScript.CommandLine
