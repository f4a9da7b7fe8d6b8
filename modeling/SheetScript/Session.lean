import SheetScript.Graph.InPlace
import SheetScript.Graph.Peeling
import SheetScript.Report
import SheetScript.Script

namespace SheetScript

/-- The sheet, the cells and the graph of the last extraction, and the last script. `missing` says
what the graph does with vertices that have no row. -/
structure Session where
  sheet : Sheet
  cells : OrderedSet String
  graph : Graph String
  missing : Missing
  script : String

inductive Step where
  | set (row column : Nat) (value : Value)
  | extract
  | convert
  | breakCycles
  | edge (source target : String)
  | reverse
  | peel
  | order
  | find (cell : String)
  | dependencies (start : Option String)
  | dependants (start : Option String)

inductive Answer where
  | sheet (s : Sheet)
  | program (p : Program)
  | script (s : Script)
  | graph (g : Graph String)
  | order (cells : List String)
  | formula (text : Option String)
  | shown

namespace Session

def start (sheet : Sheet) : Session := ⟨sheet, .empty, .empty, .added, ""⟩

def step (engine : Engine) (s : Session) : Step → Report (Session × Answer)
  | .set row column value =>
    let sheet := s.sheet.set row column value
    return ({ s with sheet }, .sheet sheet)
  | .extract => do
    let p ← Report.ofExcept (Program.ofSheet s.sheet)
    return ({ s with cells := p.cells.domain, graph := p.graph, missing := .added }, .program p)
  | .convert => do
    let script ← Report.ofExcept s.sheet.toScript
    return ({ s with script := script.text }, .script script)
  | .breakCycles => do
    let (outcome, graph) := s.graph.breakInPlace s.missing
    Report.ofExcept (outcome.mapError .missingVertex)
    return ({ s with graph }, .graph graph)
  | .edge source target =>
    let graph := s.graph.addEdge source target
    return ({ s with graph }, .graph graph)
  | .reverse =>
    let graph := s.graph.reverse
    return ({ s with graph, missing := .refused }, .graph graph)
  | .peel => return (s, .order (s.graph.peel s.cells))
  | .order => do
    let cells ← Report.ofExcept ((s.graph.order s.cells).mapError .cycle)
    return (s, .order cells)
  | .find cell => do
    let text ← Report.ofExcept (lookup s.script cell)
    return (s, .formula text)
  | .dependencies start => do
    Report.dependencies engine s.script s.graph start
    return (s, .shown)
  | .dependants start => do
    Report.dependants engine s.script s.graph start
    return (s, .shown)

/-- The session that a step leaves when it fails. Only breaking cycles works on the session itself
before it can fail. -/
def afterFailure (s : Session) : Step → Session
  | .breakCycles => { s with graph := (s.graph.breakInPlace s.missing).2 }
  | _ => s

def run (engine : Engine) (s : Session) : List Step → List (Except Error Answer × List Event)
  | [] => []
  | step :: steps =>
    match (s.step engine step).outcome with
    | (.ok (s, answer), events) => (.ok answer, events) :: run engine s steps
    | (.error e, events) => (.error e, events) :: run engine (s.afterFailure step) steps

end Session

end SheetScript
