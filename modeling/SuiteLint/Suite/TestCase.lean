import SuiteLint.Assertion.Recognition
import SuiteLint.OrderedSet

/-!
# Test cases

A test case is a test method: its name, the calls of its body and the suppressions that hold for it.
-/

namespace SuiteLint

/-- A test method. -/
structure TestCase where
  name : String
  line : Option Nat := none
  /-- The suppressions written on the method. -/
  ownSuppressed : OrderedSet String := ∅
  /-- The suppressions of the class. -/
  inherited : OrderedSet String := ∅
  invocations : List Invocation := []
  scope : Scope := {}
  /-- The assertions of the method, where they are not taken from its calls. -/
  givenAssertions : Option (List Assertion) := none
deriving Inhabited

namespace TestCase

/-- A case with nothing but a name. -/
def named (name : String) : TestCase := { name }

/-- Adds suppressions of the method itself. -/
def withSuppressed (c : TestCase) (values : List String) : TestCase :=
  { c with ownSuppressed := c.ownSuppressed.insertAll values }

/-- Sets the body of the method; its assertions are those of the calls. -/
def withBody (c : TestCase) (calls : List Invocation) (scope : Scope) : TestCase :=
  { c with invocations := calls, scope := scope, givenAssertions := none }

/-- Fixes the assertions of the method. -/
def withAssertions (c : TestCase) (assertions : List Assertion) : TestCase :=
  { c with givenAssertions := some assertions }

/-- Adds suppressions of the class. -/
def inherit (c : TestCase) (classValues : OrderedSet String) : TestCase :=
  { c with inherited := c.inherited.union classValues }

/-- The suppressions that hold for the case: its own, then those of the class. -/
def suppressed (c : TestCase) : OrderedSet String := c.ownSuppressed.union c.inherited

/-- The assertions of the case. -/
def assertions (c : TestCase) : List Assertion :=
  match c.givenAssertions with
  | some given => given
  | none => Assertion.extract c.scope c.invocations

end TestCase

end SuiteLint
