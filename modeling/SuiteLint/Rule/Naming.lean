import SuiteLint.Name.CamelCase
import SuiteLint.Name.Spam
import SuiteLint.Rule.Basic

/-!
# Rules about names
-/

namespace SuiteLint.Rule

/-- The message about a name that is not in the present tense. -/
def presentTenseMessage : String := "the test name has to be written using present tense"

/-- The name of a case is in the third person present. -/
def presentTense : Rule where
  id := "RulePresentTense"
  description := "test names are written in third-person present tense"
  check := .ofCase fun _ k => if Name.isPresentTense k.name then [] else [presentTenseMessage]

/-- The identifier of the rule about all names of a class. -/
def allPresentId : String := "RuleAllTestsInPresentSimple"

/-- Whether a case itself asks to be left out of the rule about all names of its class. -/
def skipsAllPresent (k : TestCase) : Bool :=
  Suppression.covers k.ownSuppressed allPresentId
    || Suppression.covers k.ownSuppressed presentTense.id

/-- All names of a class are in the third person present. -/
def allTestsInPresentSimple : Rule where
  id := allPresentId
  description := "every test name of a class is written in present tense"
  check := .ofClass fun _ c =>
    (c.cases.filter fun k => !skipsAllPresent k && !Name.isPresentTense k.name).map fun k =>
      (some k, presentTenseMessage)

/-- The identifier of the rule that tags names. -/
def presentSimpleId : String := "RulePresentSimpleMl"

/-- The name of a case is in the present simple by its tags. Without a model, every case is
complained about. -/
def presentSimple : Rule where
  id := presentSimpleId
  description := "test names are present simple according to the POS model"
  check := .ofCase fun context k =>
    match context.model with
    | .ok lexicon =>
      if lexicon.isPresentSimple k.name then []
      else ["the test name has to be written using present simple"]
    | .error _ => [s!"{presentSimpleId} unavailable"]

/-- The name of a case is in camel case. -/
def notCamelCase : Rule where
  id := "RuleNotCamelCase"
  description := "test names are camelCase words"
  check := .ofCase fun _ k =>
    if Name.isCamelCase k.name then [] else ["the test name has to be written in camelCase"]

/-- The name of a case repeats nothing. -/
def notSpam : Rule where
  id := "RuleNotSpam"
  description := "test names do not repeat words or characters"
  check := .ofCase fun _ k =>
    if Name.isSpam k.name then ["the test name has to be meaningful, not spam"] else []

/-- The name of a case does not say that it is a test. -/
def notContainsTestWord : Rule where
  id := "RuleNotContainsTestWord"
  description := "test names do not contain the word 'test'"
  check := .ofCase fun _ k =>
    if (Name.words k.name).contains "test" then
      ["the test name doesn't have to contain the word 'test'"]
    else []

end SuiteLint.Rule
