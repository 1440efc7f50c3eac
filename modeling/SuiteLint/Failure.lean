import SuiteLint.Path

/-!
# Failures

What can end an analysis, or keep a single file out of it. Each failure has a message and the exit
code of a run that it ends: places that cannot be found or read have a code of their own.
-/

namespace SuiteLint

/-- Why something could not be done. -/
inductive Failure where
  /-- The configuration, or an option, makes no sense. -/
  | config (text : String)
  | fileRead (path : Path)
  | rootNotFound (path : Path)
  | parse (path : Path) (reason : String)
  | modelUnavailable (text : String)
  | http (text : String)
  | invalidPattern (pattern : String)
  | io (text : String)
deriving Repr, DecidableEq, Inhabited

/-- The exit codes of a run. -/
inductive ExitCode where
  | success
  | complaints
  | badConfiguration
  | unreadable
deriving Repr, DecidableEq, Inhabited

/-- The number of an exit code. -/
def ExitCode.toNat : ExitCode → Nat
  | success => 0
  | complaints => 1
  | badConfiguration => 2
  | unreadable => 3

namespace Failure

/-- The wording of a failure. -/
def message : Failure → String
  | config text => s!"Configuration error: {text}"
  | fileRead path => s!"Failed to read file: {path.text}"
  | rootNotFound path => s!"Root directory not found: {path.text}"
  | parse path reason => s!"Failed to parse {path.text}: {reason}"
  | modelUnavailable text => s!"POS model unavailable: {text}"
  | http text => s!"HTTP error: {text}"
  | invalidPattern pattern => s!"Invalid glob pattern: {pattern}"
  | io text => s!"IO error: {text}"

/-- The exit code of a run that a failure ends. -/
def exitCode : Failure → ExitCode
  | rootNotFound _ | fileRead _ | io _ => .unreadable
  | _ => .badConfiguration

end Failure

end SuiteLint
