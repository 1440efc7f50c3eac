import SuiteLint.Rule.Basic

/-!
# Rules about assertions
-/

namespace SuiteLint.Rule

/-- A case asserts something, and each assertion explains itself. -/
def assertionMessage : Rule where
  id := "RuleAssertionMessage"
  description := "every assertion carries an explanation"
  check := .ofCase fun _ k =>
    if k.assertions.isEmpty then ["no assertion messages"]
    else
      (k.assertions.filter fun a => a.isAssertion && a.explanation.isNone).map fun a =>
        s!"assertion without message at line {a.line}"

/-- No assertion is bound to hold. -/
def lineHitter : Rule where
  id := "RuleLineHitter"
  description := "assertions are able to fail"
  check := .ofCase fun _ k =>
    (k.assertions.filter (·.isLineHitter)).map fun a => s!"line hitter assertion at line {a.line}"

end SuiteLint.Rule
