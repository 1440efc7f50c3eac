import SuiteLint.Java.StringLiteral
import SuiteLint.Java.Tree
import SuiteLint.Suite.Expr

/-!
# From syntax trees to expressions

`Tree.toExpr` keeps the shapes of expressions that assertions depend on. Parentheses and casts
vanish, and a chain of `+` becomes one list of operands. `Tree.calls` lists all calls in a tree,
each before the calls in its receiver and its arguments.
-/

namespace SuiteLint.Java

namespace Tree

/-- The dotted name that a tree spells. -/
def dottedName? : Tree → Option String
  | identifier name => some name
  | access object _ field => (dottedName? object).map fun owner => owner ++ "." ++ field
  | _ => none

/-- The receiver that an object makes. -/
def receiver (object : Tree) : Receiver :=
  match object.dottedName? with
  | some name => .named name
  | none => .computed

/-- The operands that an expression adds to a chain of `+`. -/
def operands : Expr → List Expr
  | .concat parts => parts
  | e => [e]

mutual

/-- The expression of a tree. -/
def toExpr : Tree → Expr
  | string raw _ => .str (StringLiteral.value raw)
  | bool value => .bool value
  | null => .null
  | number text => .number text
  | identifier name => .name name
  | access object between field =>
    match dottedName? (access object between field) with
    | some name => .name name
    | none => .other
  | call line _ name args => .call .unqualified name (toExprs args) line
  | methodCall line object _ name args => .call (receiver object) name (toExprs args) line
  | lambda _ (block [returnStatement (value :: _)]) => .lambda (toExpr value)
  | lambda _ (block _) => .procedure
  | lambda _ body => .lambda (toExpr body)
  | binary operator left _ right =>
    if operator == "+" then .concat (operands (toExpr left) ++ operands (toExpr right)) else .other
  | parenthesized inner _ => toExpr inner
  | cast _ value => toExpr value
  | creation _ type _ => .creation type
  | block _ => .other
  | returnStatement _ => .other
  | node _ => .other

/-- The expressions of trees. -/
def toExprs : List Tree → List Expr
  | [] => []
  | t :: rest => toExpr t :: toExprs rest

end

mutual

/-- The calls in a tree, outer calls before inner ones. -/
def calls : Tree → List Invocation
  | call line before name args =>
    { receiver := .unqualified, method := name, args := toExprs args, line }
      :: (callsOf before ++ callsOf args)
  | methodCall line object between name args =>
    { receiver := receiver object, method := name, args := toExprs args, line }
      :: (calls object ++ callsOf between ++ callsOf args)
  | string _ parts => callsOf parts
  | access object between _ => calls object ++ callsOf between
  | lambda before body => callsOf before ++ calls body
  | binary _ left between right => calls left ++ callsOf between ++ calls right
  | parenthesized inner rest => calls inner ++ callsOf rest
  | cast before value => callsOf before ++ calls value
  | creation before _ behind => callsOf before ++ callsOf behind
  | block statements => callsOf statements
  | returnStatement parts => callsOf parts
  | node parts => callsOf parts
  | bool _ => []
  | null => []
  | number _ => []
  | identifier _ => []

/-- The calls in trees, one tree after the other. -/
def callsOf : List Tree → List Invocation
  | [] => []
  | t :: rest => calls t ++ callsOf rest

end

end Tree

end SuiteLint.Java
