import SuiteLint.Config.Basic
import SuiteLint.Glob
import SuiteLint.Url

/-!
# Validation of configurations

A configuration must name rules that exist, values that look like rules, patterns that can be read,
and an address that can be asked. The first thing that is wrong is reported, in this order.
-/

namespace SuiteLint.Config

/-- Fails unless an identifier of a section has the form of a rule. -/
def checkRuleId (key id : String) : Except Failure Unit :=
  if Rule.isValidId id then .ok ()
  else .error (.config
    s!"{key}: '{id}' is not a rule identifier (expected e.g. RuleNotSpam)")

/-- Fails unless an identifier names a rule. -/
def checkRule (id : String) : Except Failure Unit := do
  checkRuleId "rules" id
  if (Rule.find? id).isNone then .error (.config s!"rules: unknown rule '{id}'")

/-- Fails unless a suppression looks like a rule, with or without the alias in front. -/
def checkSuppression (value : String) : Except Failure Unit :=
  checkRuleId "suppressions" ((Text.stripFront? Suppression.aliasMark value).getD value)

/-- Fails unless a pattern can be read. -/
def checkPattern (pattern : String) : Except Failure Unit :=
  match Glob.parse pattern with
  | .ok _ => .ok ()
  | .error _ => .error (.invalidPattern pattern)

/-- Fails unless an address is remote. -/
def checkUrl (url : String) : Except Failure Unit :=
  if Url.isRemote url then .ok ()
  else .error (.config s!"model.url must start with http:// or https://, got '{url}'")

/-- Fails unless a configuration makes sense. -/
def validate (c : Config) : Except Failure Unit := do
  (c.rules.getD []).forM checkRule
  c.suppressions.forM checkSuppression
  c.exclude.forM checkPattern
  c.modelUrl.forM checkUrl

end SuiteLint.Config
