import SuiteLint.Report.Basic
import SuiteLint.Rule.Registry

/-!
# Options of an analysis
-/

namespace SuiteLint

/-- What an analysis is asked to do. -/
structure Options where
  failOn : FailOn := .any
  rules : Rule.Selection := .all
  /-- The rules that are silenced for every target. -/
  suppressions : OrderedSet String := ∅
  /-- Where the model is cached. -/
  modelPath : Option Path := none
  /-- Where the model is downloaded from; the bundled one is used if there is no address. -/
  modelUrl : Option String := none
  /-- Whether nothing may be downloaded. -/
  offline : Bool := false
  /-- The patterns of files to skip. -/
  exclude : List String := []
  /-- The parents that test classes may have. -/
  allowedParents : OrderedSet String := ∅
deriving Inhabited

/-- The selected rules, or the failure that an unknown one is. -/
def Options.resolveRules (o : Options) : Except Failure (List Rule) :=
  match o.rules.resolve with
  | .ok rules => .ok rules
  | .error unknown => .error (.config s!"Unknown rule: {unknown}")

end SuiteLint
