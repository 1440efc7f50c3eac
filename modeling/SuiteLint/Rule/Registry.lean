import SuiteLint.Rule.Asserting
import SuiteLint.Rule.Naming
import SuiteLint.Rule.Structure

/-!
# The registry of rules

All rules in the order in which they are listed, and the selections that can be made from them.
-/

namespace SuiteLint.Rule

/-- All rules. -/
def registry : List Rule :=
  [ presentTense, allTestsInPresentSimple, presentSimple, notCamelCase, notSpam,
    notContainsTestWord, assertionMessage, lineHitter, inheritanceInTests,
    testCaseContainsMockery, correctTestCaseDirectory, nullableAnnotation ]

/-- The rule with an identifier. -/
def find? (id : String) : Option Rule := registry.find? fun r => r.id == id

/-- Whether a text has the form of an identifier: `Rule`, a capital letter, then at least one ASCII
letter or digit. -/
def isValidId (id : String) : Bool :=
  match Text.dropFront? "Rule".toList id.toList with
  | some (c :: d :: rest) => c.isUpper && (d :: rest).all Char.isAlphanum
  | _ => false

/-- Fills a text with blanks up to a width. -/
def padTo (width : Nat) (s : String) : String := s.pushn ' ' (width - s.length)

/-- The rules as a table: identifier, scope and description. -/
def listing : String :=
  let width := registry.foldl (fun w r => max w r.id.length) 0
  String.join <| registry.map fun r =>
    s!"{padTo width r.id}  {padTo 5 r.scopeName}  {r.description}\n"

/-- Which rules are run. -/
inductive Selection where
  | all
  | only (ids : OrderedSet String)
deriving DecidableEq, Inhabited

namespace Selection

/-- Whether a selection includes a rule. -/
def includes : Selection → String → Bool
  | all, _ => true
  | only ids, id => ids.contains id

/-- The selected rules in the order of the registry, or the first selected identifier that no rule
has. -/
def resolve (s : Selection) : Except String (List Rule) :=
  match s with
  | all => .ok registry
  | only ids =>
    match ids.toList.find? fun id => (find? id).isNone with
    | some unknown => .error unknown
    | none => .ok (registry.filter fun r => s.includes r.id)

end Selection

end SuiteLint.Rule
