import SheetScript.CommandLine.Word

namespace SheetScript.CommandLine

structure Settings where
  file : Option String := none
  compute : Option String := none
  formula : Option String := none
  output : Option String := none
  dependencies : Option String := none
  dependants : Option String := none

def Settings.put (s : Settings) (value : Option String) : Flag → Settings
  | .help => s
  | .compute => { s with compute := value }
  | .formula => { s with formula := value }
  | .output => { s with output := value }
  | .dependencies => { s with dependencies := value }
  | .dependants => { s with dependants := value }

inductive Request where
  | help
  | refused (r : Refusal)
  | run (s : Settings)

/-- What is attached to `-h`: further short flags, of which the last may have a value, attached or
following. -/
def checkCluster (following : List Word) : List Char → Except Refusal Unit
  | [] => .ok ()
  | c :: more =>
    match Flag.ofShort? c with
    | none => .error (.unusedValue .help (String.ofList (c :: more)))
    | some f =>
      match f.arity, more, following with
      | .nothing, _, _ => checkCluster following more
      | .one, [], .operand _ :: _ => .ok ()
      | .one, [], _ => .error (.missingValue f)
      | _, _, _ => .ok ()

def helpRequest (short : Bool) (value : Option (List Char)) (following : List Word) : Request :=
  match value with
  | none => .help
  | some text =>
    if short && !text.isEmpty then
      match checkCluster following text with
      | .ok _ => .help
      | .error r => .refused r
    else .refused (.unusedValue .help (String.ofList text))

def attachedValue (text : List Char) : Option String :=
  if text = ['-', '-'] then none else some (String.ofList text)

def collect (s : Settings) (extras : List String) : List Word → Request
  | [] =>
    if s.file.isNone then .refused .missingFile
    else if extras.isEmpty then .run s
    else .refused (.unknown extras)
  | .unknown text :: rest => collect s (extras ++ [text]) rest
  | .flag f short value :: rest =>
    match f.arity, value with
    | .nothing, _ => helpRequest short value rest
    | _, some text => collect (s.put (attachedValue text) f) extras rest
    | arity, none =>
      match rest with
      | .operand text :: more => collect (s.put (some text) f) extras more
      | rest =>
        if arity = .one then .refused (.missingValue f) else collect (s.put none f) extras rest
  | .operand text :: rest =>
    if s.file.isNone then
      match rest with
      | .terminator :: more => collect { s with file := some text } extras more
      | rest => collect { s with file := some text } extras rest
    else collect s (extras ++ [text]) rest
  | .terminator :: rest =>
    match rest with
    | .operand text :: more =>
      if s.file.isNone then collect { s with file := some text } extras more
      else collect s (extras ++ ["--"]) (.operand text :: more)
    | rest => collect s (extras ++ ["--"]) rest
termination_by words => words.length

def request (arguments : List String) : Request :=
  match understandAll arguments with
  | .error r => .refused r
  | .ok words => collect {} [] words

inductive Task where
  | dependencies (start : String)
  | dependants (cell : String)
  | formula (cell : String)
  | compute (cell : String)
  | save (path : String)
  | print

def given (value : Option String) : Option String := value.filter (!·.isEmpty)

/-- The dependency trees come first, and an empty name asks for them too. -/
def Settings.task (s : Settings) : Task :=
  match s.dependencies, given s.dependants, given s.formula, given s.compute, given s.output with
  | some start, _, _, _, _ => .dependencies start
  | none, some cell, _, _, _ => .dependants cell
  | none, none, some cell, _, _ => .formula cell
  | none, none, none, some cell, _ => .compute cell
  | none, none, none, none, some path => .save path
  | none, none, none, none, none => .print

end SheetScript.CommandLine
