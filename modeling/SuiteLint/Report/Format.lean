import SuiteLint.Report.Document
import SuiteLint.Report.Text
import SuiteLint.Text.Casing

/-!
# Formats of reports
-/

namespace SuiteLint.Report

/-- In which form a report is written. -/
inductive Format where
  | text
  | json
deriving Repr, DecidableEq, Inhabited

namespace Format

/-- Why a name is not the name of a format. -/
def unknownMessage (name : String) : String := s!"Unknown output format: {name}"

/-- The format with a name, in whatever case it is written. -/
def ofName? (name : String) : Option Format :=
  let lower := Text.lowerText name
  if lower == "text" then some text
  else if lower == "json" then some json
  else none

end Format

/-- A report in a format. Without a terminal, colors are used only if they always are. -/
def write (format : Format) (colors : ColorMode) (root : Option Path) (r : Report) : String :=
  match format with
  | .text => TextStyle.render { colors := colors == .always, root } r
  | .json => r.renderDocument root

end SuiteLint.Report
