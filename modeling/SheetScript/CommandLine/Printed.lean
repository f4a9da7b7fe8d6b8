import SheetScript.CommandLine.Settings
import SheetScript.Report

namespace SheetScript

def Tree.lines (indent : String) : List (Tree String) → List String
  | [] => []
  | .node label branches :: rest =>
    (indent ++ label) :: (lines (indent ++ "  ") branches ++ lines indent rest)

def Event.lines : Event → List String
  | .line text => [text]
  | .tree t => Tree.lines "" [t]

def CommandLine.Flag.usage (f : Flag) : String :=
  match f.arity with
  | .nothing => f.shown
  | .one => f.shown ++ " VALUE"
  | .atMostOne => f.shown ++ " [VALUE]"

def CommandLine.usage : List String :=
  "usage: file [flags]" :: Flag.all.map fun f => "  " ++ f.usage

end SheetScript
