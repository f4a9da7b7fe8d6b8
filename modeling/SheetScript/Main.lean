import SheetScript.CommandLine.Printed
import SheetScript.CommandLine.Run
import SheetScript.Sheet.Tabular
import SheetScript.Symbolic

namespace SheetScript.CommandLine

def finish : Ending → IO UInt32
  | .done => return 0
  | .failed => return 1
  | .save path text => do
    try
      IO.FS.writeFile path text
      IO.println (savedLine path)
    catch e => IO.println (unsavedLine path (toString e))
    return 0

def work (settings : Settings) : IO UInt32 := do
  let sheet := Sheet.ofText (← IO.FS.readFile (settings.file.getD ""))
  let (result, events) := (perform sheet .symbolic settings.task).outcome
  for event in events do
    for line in event.lines do
      IO.println line
  match result with
  | .ok ending => finish ending
  | .error e =>
    IO.eprintln e.message
    return 1

def serve (arguments : List String) : IO UInt32 :=
  match request arguments with
  | .help => do
    for line in usage do
      IO.println line
    return 0
  | .refused r => do
    IO.eprintln ("error: " ++ r.message)
    return 2
  | .run settings => work settings

end SheetScript.CommandLine

def main (arguments : List String) : IO UInt32 := SheetScript.CommandLine.serve arguments
