import SuiteLint.Text.Split

/-!
# Expressions of test bodies

The few shapes of expressions that assertions and mocks are recognized by. Everything else is
`other`.
-/

namespace SuiteLint

/-- What a method is called on. -/
inductive Receiver where
  /-- Nothing: `assertTrue(x)`. -/
  | unqualified
  /-- A simple or dotted name: `Assertions.assertTrue(x)`. -/
  | named (name : String)
  /-- Any other expression: `mock(List.class).get(0)`. -/
  | computed
deriving Repr, DecidableEq, Inhabited

/-- The last segment of a named receiver. -/
def Receiver.simpleName? : Receiver → Option String
  | named name => some (Text.simpleName name)
  | _ => none

/-- An expression. -/
inductive Expr where
  /-- A string literal with its value. -/
  | str (value : String)
  | bool (value : Bool)
  /-- A number literal as written. -/
  | number (text : String)
  | null
  /-- A simple or dotted name. -/
  | name (text : String)
  /-- A method call and the line that it starts on. -/
  | call (receiver : Receiver) (method : String) (args : List Expr) (line : Nat)
  /-- A lambda that returns one expression. -/
  | lambda (result : Expr)
  /-- A lambda whose body is not one returned expression. -/
  | procedure
  /-- The operands of a chain of `+`. -/
  | concat (parts : List Expr)
  /-- An object creation with its type as written. -/
  | creation (type : String)
  | other
deriving Repr, Inhabited

/-- A method call of a test body. -/
structure Invocation where
  receiver : Receiver
  method : String
  args : List Expr
  line : Nat
deriving Repr, Inhabited

/-- A call as an expression. -/
def Invocation.toExpr (i : Invocation) : Expr := .call i.receiver i.method i.args i.line

/-- Whether two expressions are the same literal. -/
def Expr.sameLiteral : Expr → Expr → Bool
  | .str a, .str b => a == b
  | .bool a, .bool b => a == b
  | .number a, .number b => a == b
  | .null, .null => true
  | _, _ => false

/-- Whether an expression is a string literal or a chain of `+`. -/
def Expr.isTextual : Expr → Bool
  | .str _ | .concat _ => true
  | _ => false

/-- Whether an expression is a number literal. -/
def Expr.isNumber : Expr → Bool
  | .number _ => true
  | _ => false

end SuiteLint
