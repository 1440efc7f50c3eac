import SuiteLint.Report.Basic

/-!
# Reports as text

One line for each complaint, one for each file that was not analyzed, and a summary, with a blank
line between the parts. Colors are escape sequences around pieces of this text, so that the text
without colors is the text with its escape sequences taken out.
-/

namespace SuiteLint.Report

/-- When colors are used. -/
inductive ColorMode where
  /-- Only on a terminal. -/
  | auto
  | always
  | never
deriving Repr, DecidableEq, Inhabited

/-- The colors of a text report. -/
inductive Color where
  | red
  | green
  | yellow
  | cyan
deriving Repr, DecidableEq

/-- The number of a color in an escape sequence. -/
def Color.code : Color → Nat
  | red => 31
  | green => 32
  | yellow => 33
  | cyan => 36

/-- The escape sequence with a number. -/
def escapeSequence (code : Nat) : String := s!"\x1b[{code}m"

/-- How a text report is laid out. -/
structure TextStyle where
  colors : Bool
  /-- Where paths are shown from. -/
  root : Option Path

namespace TextStyle

/-- Puts a piece of text into a color, if colors are used. -/
def paint (style : TextStyle) (color : Color) (piece : String) : String :=
  if style.colors then escapeSequence color.code ++ piece ++ escapeSequence 0 else piece

/-- The line of a complaint. -/
def complaintLine (style : TextStyle) (c : Complaint) : String :=
  let place := Complaint.location (c.path.shown style.root) c.line
  style.paint .cyan place ++ ": " ++ c.target ++ ": " ++ c.message ++ " "
    ++ style.paint .yellow ("(" ++ c.rule ++ ")") ++ "\n"

/-- The line of a file that was not analyzed. -/
def diagnosticLine (style : TextStyle) (d : Diagnostic) : String :=
  style.paint .yellow "skipped" ++ ": " ++ d.path.shown style.root ++ ": " ++ d.reason ++ "\n"

/-- The last line. -/
def summaryLine (style : TextStyle) (r : Report) : String :=
  let count := r.complaints.length
  let noun := if count == 1 then "complaint" else "complaints"
  let color := if count == 0 then Color.green else Color.red
  let skipped :=
    if r.diagnostics.isEmpty then ""
    else ", " ++ style.paint .yellow (toString r.diagnostics.length) ++ " files not analyzed"
  "Summary: " ++ style.paint color (toString count) ++ " " ++ noun ++ skipped ++ "\n"

/-- What stands before the summary. -/
def body (style : TextStyle) (r : Report) : String :=
  let complaints := String.join (r.complaints.map style.complaintLine)
  let gap := if r.complaints.isEmpty || r.diagnostics.isEmpty then "" else "\n"
  complaints ++ gap ++ String.join (r.diagnostics.map style.diagnosticLine)

/-- A report as text. -/
def render (style : TextStyle) (r : Report) : String :=
  let gap := if r.complaints.isEmpty && r.diagnostics.isEmpty then "" else "\n"
  style.body r ++ gap ++ style.summaryLine r

end TextStyle

end SuiteLint.Report
