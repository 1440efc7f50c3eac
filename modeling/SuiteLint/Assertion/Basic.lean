import SuiteLint.Suite.Scope

/-!
# Assertions

An assertion is a call that checks something, with the explanation that it carries.
-/

namespace SuiteLint

/-- A call that was recognized as an assertion. -/
structure Assertion where
  /-- The message of the assertion, or `none` if it carries no message. -/
  explanation : Option String
  /-- Whether the assertion cannot fail. -/
  isLineHitter : Bool
  isAssertion : Bool
  /-- The called method. -/
  method : String
  line : Nat
deriving Repr, DecidableEq, Inhabited

namespace Assertion

/-- The explanation of a message that is only known when the test runs. -/
def unknownExplanation : String := "unknown at static time"

/-- The text of a message, as far as it is known. -/
def explain (scope : Scope) (message : Expr) : String :=
  (scope.fold message).getD unknownExplanation

/-- Whether a call goes to a static method of the type with the simple name `owner`: by a qualified
name or by a static import. -/
def isCalledOn (scope : Scope) (owner : String) (call : Invocation) : Bool :=
  match call.receiver with
  | .named name => Text.simpleName name == owner
  | .unqualified => scope.importsStatically owner call.method
  | .computed => false

end Assertion

end SuiteLint
