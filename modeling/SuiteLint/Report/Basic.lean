import SuiteLint.Complaint
import SuiteLint.Failure

/-!
# Reports

The outcome of an analysis: the complaints, and the files that could not be analyzed in full.
-/

namespace SuiteLint

/-- A file that was skipped, or only partly understood. -/
structure Diagnostic where
  path : Path
  reason : String
deriving Repr, DecidableEq, Inhabited

namespace Diagnostic

/-- The order of diagnostics: by path, then by reason. -/
def cmp (a b : Diagnostic) : Ordering := (a.path.cmp b.path).then (compare a.reason b.reason)

/-- Whether a diagnostic may stand before another one. -/
def le (a b : Diagnostic) : Bool := a.cmp b != .gt

end Diagnostic

/-- Sorted diagnostics. -/
def Diagnostic.arrange (diagnostics : List Diagnostic) : List Diagnostic :=
  diagnostics.mergeSort Diagnostic.le

/-- When complaints make a run fail. -/
inductive FailOn where
  | any
  | none
deriving Repr, DecidableEq, Inhabited

/-- The outcome of an analysis. -/
structure Report where
  complaints : List Complaint
  diagnostics : List Diagnostic
deriving Repr, DecidableEq, Inhabited

namespace Report

/-- Whether there is no complaint. -/
def isClean (r : Report) : Bool := r.complaints.isEmpty

/-- The exit code of a run with this outcome. -/
def exitCode (r : Report) : FailOn → ExitCode
  | .any => if r.isClean then .success else .complaints
  | .none => .success

/-- The report with everything in its place: complaints sorted and without repetitions, diagnostics
sorted. -/
def arrange (r : Report) : Report :=
  { complaints := Complaint.arrange r.complaints, diagnostics := Diagnostic.arrange r.diagnostics }

end Report

end SuiteLint
