import AsmCheck.Document
import AsmCheck.Labels

/-!
# Reports

The report on a text has its diagnostics in document order, those of lines and those of labels
together. A limit cuts the list; a negative one does not.
-/

namespace AsmCheck

set_option autoImplicit false

structure Report where
  nodes : List Node
  diagnostics : List Diagnostic
  resolution : Resolution
  deriving DecidableEq

namespace Report

def defaultLimit : Int := 1000

/-- Whether a diagnostic does not come after another one. -/
def inOrder (a b : Diagnostic) : Bool :=
  a.position.1 < b.position.1 || (a.position.1 == b.position.1 && a.position.2 ≤ b.position.2)

/-- The first `limit` elements, or all of them if the limit is negative. -/
def cut {α : Type} (limit : Int) (list : List α) : List α :=
  if limit < 0 then list else list.take limit.toNat

def ofText (file? : Option String) (limit : Int) (t : Text) : Report :=
  let document := Document.read file? t
  let resolution := Resolution.ofNodes file? document.nodes
  { nodes := document.nodes
    diagnostics := cut limit ((document.diagnostics ++ resolution.diagnostics).mergeSort inOrder)
    resolution := resolution }

/-- Whether a diagnostic that is shown is an error. -/
def hasError (report : Report) : Bool := report.diagnostics.any (·.severity == .error)

end Report

end AsmCheck
