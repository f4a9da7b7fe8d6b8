import SheetScript.Main
import SheetScript.Proofs.Cells
import SheetScript.Proofs.Closed
import SheetScript.Proofs.Decimal.Double
import SheetScript.Proofs.Decimal.Hundredths
import SheetScript.Proofs.Decimal.Interval
import SheetScript.Proofs.Decimal.Notation
import SheetScript.Proofs.Decimal.Rounding
import SheetScript.Proofs.Decimal.Shortest
import SheetScript.Proofs.Execution
import SheetScript.Proofs.Forest
import SheetScript.Proofs.Formula.Anchors
import SheetScript.Proofs.Formula.Arguments
import SheetScript.Proofs.Formula.Faithful
import SheetScript.Proofs.Formula.Percent
import SheetScript.Proofs.Formula.Rectangle
import SheetScript.Proofs.Grammar
import SheetScript.Proofs.Graph.Repeated
import SheetScript.Proofs.Growth
import SheetScript.Proofs.InPlace
import SheetScript.Proofs.Ordering
import SheetScript.Proofs.Peeling
import SheetScript.Proofs.Precedence
import SheetScript.Proofs.Saving
import SheetScript.Session
