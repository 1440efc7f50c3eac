import SuiteLint.Assertion.Hamcrest
import SuiteLint.Assertion.JUnit

/-!
# Recognition of assertions

The assertions of a method body are those of its calls that either family recognizes.
-/

namespace SuiteLint.Assertion

/-- The assertion that a call makes. -/
def recognize? (scope : Scope) (call : Invocation) : Option Assertion :=
  (JUnit.recognize? scope call).or (Hamcrest.recognize? scope call)

/-- The assertions of calls, in their order. -/
def extract (scope : Scope) (calls : List Invocation) : List Assertion :=
  calls.filterMap (recognize? scope)

end SuiteLint.Assertion
