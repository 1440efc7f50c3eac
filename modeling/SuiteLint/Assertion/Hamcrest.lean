import SuiteLint.Assertion.Basic

/-!
# Hamcrest assertions

Calls to `MatcherAssert.assertThat`: with a reason, a subject and a matcher, with a reason and a
condition, or with a subject and a matcher.
-/

namespace SuiteLint.Assertion.Hamcrest

/-- The type that declares the assertion. -/
def owner : String := "MatcherAssert"

/-- The method that asserts. -/
def method : String := "assertThat"

/-- The matchers that compare for equality. -/
def equalityMatchers : List String := ["is", "equalTo"]

/-- The types that declare matchers. -/
def matcherOwners : List String := ["Matchers", "CoreMatchers"]

/-- Whether an expression is a matcher: a call without receiver or on a type that declares
matchers. -/
def isMatcher : Expr → Bool
  | .call .unqualified _ _ _ => true
  | .call (.named name) _ _ _ => matcherOwners.contains (Text.simpleName name)
  | _ => false

/-- Whether an expression is a text: a literal, a concatenation or a constant that holds one. -/
def isText (scope : Scope) : Expr → Bool
  | .str _ | .concat _ => true
  | .name text => (scope.resolve text).any Expr.isTextual
  | _ => false

/-- The truth value that a matcher expects, if it is an equality matcher around one, at any depth.
-/
def expectedBool? : Expr → Option Bool
  | .bool value => some value
  | .call _ name [inner] _ => if equalityMatchers.contains name then expectedBool? inner else none
  | _ => none

/-- Whether a truth value is matched against itself. -/
def isTautology (subject matcher : Expr) : Bool :=
  match subject with
  | .bool value => expectedBool? matcher == some value
  | _ => false

/-- The reason of a call and whether the call cannot fail. -/
def read? (scope : Scope) : List Expr → Option (Option Expr × Bool)
  | [reason, subject, matcher] => some (some reason, isTautology subject matcher)
  | [reason, .bool value] => some (some reason, value)
  | [first, second] =>
    if isText scope first && !isMatcher second then some (some first, false)
    else some (none, isTautology first second)
  | _ => none

/-- The assertion that a call makes. -/
def recognize? (scope : Scope) (call : Invocation) : Option Assertion :=
  if call.method == method && isCalledOn scope owner call then
    (read? scope call.args).map fun (reason, hitter) =>
      { explanation := reason.map (explain scope)
        isLineHitter := hitter
        isAssertion := true
        method := method
        line := call.line }
  else none

end SuiteLint.Assertion.Hamcrest
