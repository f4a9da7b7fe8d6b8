import SheetScript.CommandLine.Directory
import SheetScript.CommandLine.Settings
import SheetScript.Report
import SheetScript.Script
import SheetScript.Text.Lines

namespace SheetScript.CommandLine

inductive Ending where
  | done
  | failed
  | save (path text : String)

/-- A script is saved only if its first formula cell has a value. -/
def prepareSave (engine : Engine) (script : Script) (path : String) : Report Ending := do
  match script.formulas.keys with
  | [] => return .save path script.text
  | cell :: _ =>
    let value ← Report.compute engine script.text cell
    if value.isBlank then
      Report.print (.line ("Error in the generated JavaScript. Not saving to " ++ path ++ "."))
      return .failed
    else return .save path script.text

def perform (sheet : Sheet) (engine : Engine) (task : Task) : Report Ending := do
  let script ← Report.ofExcept sheet.toScript
  let program ← Report.ofExcept (Program.ofSheet sheet)
  match task with
  | .dependencies start =>
    Report.dependencies engine script.text program.graph (some start)
    return .done
  | .dependants cell =>
    Report.dependants engine script.text program.graph (some cell)
    return .done
  | .formula _ => throw .noDefinition
  | .compute cell =>
    let value ← Report.compute engine script.text cell
    Report.print (.line ("The computed value of " ++ cell ++ " is " ++ value.shown))
    return .done
  | .save path => prepareSave engine script path
  | .print =>
    Report.print (.line script.text)
    return .done

def savedLine (path : String) : String := "Successfully saved JavaScript to " ++ path

def unsavedLine (path reason : String) : String := "Error writing to " ++ path ++ ": " ++ reason

/-- What a run leaves behind: its exit status if it chose one, the files it wrote, the last line it
wrote to the error channel, what it printed, and the error that ended it. -/
structure Outcome where
  exit : Option Nat := none
  files : List (String × String) := []
  complaint : String := ""
  events : List Event := []
  error : Option Error := none

def save (path text : String) (events : List Event) : Outcome :=
  let saved := Event.line (savedLine path)
  let unsaved (reason : String) := Event.line (unsavedLine path reason)
  if '\x00' ∈ path.toList then { events, error := some .zeroInPath }
  else
    match place path with
    | .error e => { events := events ++ [unsaved (e.message path)] }
    | .ok (.file name) => { events := events ++ [saved], files := [(name, text)] }
    | .ok .elsewhere => { events := events ++ [saved] }
    | .ok .full =>
      if text.isEmpty then { events := events ++ [saved] }
      else if text.utf8ByteSize < bufferSize then
        { events := events ++ [saved, unsaved noSpace] }
      else { events := events ++ [unsaved noSpace] }

def lastLine (message : String) : String :=
  String.ofList ((Text.lines (message.toList ++ ['\n'])).getLast?.getD [])

def run (name : String) (sheet : Sheet) (engine : Engine) (arguments : List String) : Outcome :=
  match request arguments with
  | .help => { exit := some 0 }
  | .refused r => { exit := some 2, complaint := lastLine (name ++ ": error: " ++ r.message) }
  | .run settings =>
    match (perform sheet engine settings.task).outcome with
    | (.error e, events) => { events, error := some e }
    | (.ok .done, events) => { events }
    | (.ok .failed, events) => { events, exit := some 1 }
    | (.ok (.save path text), events) => save path text events

end SheetScript.CommandLine
