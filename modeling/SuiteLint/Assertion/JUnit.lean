import SuiteLint.Assertion.Basic

/-!
# JUnit assertions

Calls to the methods of `Assertions`. A message stands behind the arguments that a method needs;
`fail` and `assertAll` take theirs first.
-/

namespace SuiteLint.Assertion.JUnit

/-- The type that declares the assertions. -/
def owner : String := "Assertions"

/-- The assertions that need one argument. -/
def unaryMethods : List String :=
  ["assertTrue", "assertFalse", "assertNull", "assertNotNull", "assertDoesNotThrow"]

/-- The assertions that need two arguments. -/
def binaryMethods : List String :=
  ["assertEquals", "assertNotEquals", "assertArrayEquals", "assertIterableEquals",
    "assertLinesMatch", "assertSame", "assertNotSame", "assertInstanceOf", "assertThrows",
    "assertThrowsExactly", "assertTimeout", "assertTimeoutPreemptively"]

/-- The number of arguments that an assertion needs besides its message. -/
def arity? (method : String) : Option Nat :=
  if unaryMethods.contains method then some 1
  else if binaryMethods.contains method then some 2
  else if method == "fail" || method == "assertAll" then some 0
  else none

/-- Whether an argument is a number: a literal or a constant that holds one. -/
def isDelta (scope : Scope) : Expr → Bool
  | .number _ => true
  | .name text => (scope.resolve text).any Expr.isNumber
  | _ => false

/-- The message behind the arguments that an assertion needs; a number there is a tolerance. -/
def trailingMessage? (scope : Scope) (arity : Nat) (args : List Expr) : Option Expr :=
  if args.length ≤ arity then none
  else args.getLast?.filter fun last => !isDelta scope last

/-- The message of `fail`: its first argument, unless that creates an exception. -/
def failMessage? : List Expr → Option Expr
  | [] => none
  | .creation _ :: _ => none
  | first :: _ => some first

/-- The heading of `assertAll`: the first of several arguments, unless that is a lambda. -/
def heading? : List Expr → Option Expr
  | .lambda _ :: _ => none
  | .procedure :: _ => none
  | first :: _ :: _ => some first
  | _ => none

/-- The argument that is the message of a call. -/
def message? (scope : Scope) (arity : Nat) (method : String) (args : List Expr) : Option Expr :=
  if method == "fail" then failMessage? args
  else if method == "assertAll" then heading? args
  else trailingMessage? scope arity args

/-- Whether the first argument is a truth value. -/
def startsWithBool (value : Bool) : List Expr → Bool
  | .bool b :: _ => b == value
  | _ => false

/-- Whether the first two arguments are the same literal. -/
def comparesLiteral : List Expr → Bool
  | expected :: actual :: _ => expected.sameLiteral actual
  | _ => false

/-- Whether a call cannot fail: a truth value or a literal is checked against itself. -/
def isLineHitter (method : String) (args : List Expr) : Bool :=
  (method == "assertTrue" && startsWithBool true args)
    || (method == "assertFalse" && startsWithBool false args)
    || ((method == "assertEquals" || method == "assertSame") && comparesLiteral args)

/-- The assertion that a call makes. -/
def recognize? (scope : Scope) (call : Invocation) : Option Assertion :=
  match arity? call.method with
  | none => none
  | some arity =>
    if isCalledOn scope owner call then
      some
        { explanation := (message? scope arity call.method call.args).map (explain scope)
          isLineHitter := isLineHitter call.method call.args
          isAssertion := true
          method := call.method
          line := call.line }
    else none

end SuiteLint.Assertion.JUnit
