import SuiteLint.Json
import SuiteLint.Report.Basic

/-!
# Reports as JSON

A report is an object with a summary, the complaints and the files that were not analyzed. A key
whose value is unknown is left out.
-/

namespace SuiteLint.Report

/-- A member that is there only if it has a value. -/
def optionalMember {α : Type} (key : String) (toJson : α → Json) : Option α → List (String × Json)
  | some value => [(key, toJson value)]
  | none => []

/-- A complaint, with its path shown from `root`. -/
def complaintDocument (root : Option Path) (c : Complaint) : Json :=
  .object <|
    [("rule", .text c.rule), ("path", .text (c.path.shown root))]
      ++ optionalMember "line" .number c.line
      ++ [("class", .text c.className)]
      ++ optionalMember "method" .text c.method
      ++ [("message", .text c.message)]

/-- A file that was not analyzed, with its path shown from `root`. -/
def diagnosticDocument (root : Option Path) (d : Diagnostic) : Json :=
  .object [("path", .text (d.path.shown root)), ("reason", .text d.reason)]

/-- A report, with its paths shown from `root`. -/
def document (root : Option Path) (r : Report) : Json :=
  .object
    [ ("summary", .object
        [ ("complaints", .number r.complaints.length),
          ("diagnostics", .number r.diagnostics.length) ]),
      ("complaints", .list (r.complaints.map (complaintDocument root))),
      ("diagnostics", .list (r.diagnostics.map (diagnosticDocument root))) ]

/-- A report as the text of a JSON document. -/
def renderDocument (root : Option Path) (r : Report) : String := (r.document root).pretty

end SuiteLint.Report
