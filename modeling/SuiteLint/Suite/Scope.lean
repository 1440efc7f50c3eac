import SuiteLint.KeyedList
import SuiteLint.Suite.Expr

/-!
# What a class makes known to its methods

A scope holds the name of the class, the values of its constants and the static imports of its file.
It resolves names to constants and folds expressions to the text that they are known to have.
-/

namespace SuiteLint

/-- What the body of a method can refer to. -/
structure Scope where
  /-- The simple name of the class. -/
  className : String := ""
  /-- The values of the final fields. -/
  constants : List (String × Expr) := []
  /-- The static imports as written, a wildcard as `.*` at the end. -/
  staticImports : List String := []
deriving Repr, Inhabited

namespace Scope

/-- The scope with the value of a constant; a later value replaces an earlier one. -/
def withConstant (scope : Scope) (name : String) (value : Expr) : Scope :=
  { scope with constants := KeyedList.set name value scope.constants }

/-- The constants in the order of their names. -/
def sortedConstants (scope : Scope) : List (String × Expr) :=
  scope.constants.mergeSort fun a b => a.1 ≤ b.1

/-- Whether an import brings in a method of the type with the simple name `owner`. -/
def importCovers (owner method path : String) : Bool :=
  match Text.splitLast? '.' path with
  | some (type, member) => Text.simpleName type == owner && (member == "*" || member == method)
  | none => false

/-- Whether a method is statically imported from the type with the simple name `owner`. -/
def importsStatically (scope : Scope) (owner method : String) : Bool :=
  scope.staticImports.any (importCovers owner method)

/-- The value of the constant that a name refers to. The name may be qualified by the name of the
class or by `this`. -/
def resolve (scope : Scope) (name : String) : Option Expr :=
  match Text.splitLast? '.' name with
  | some (owner, field) =>
    if owner == scope.className || owner == "this" then KeyedList.get? field scope.constants
    else none
  | none => KeyedList.get? name scope.constants

/-- Whether a call formats a string: its value is taken to be its first argument. -/
def isStringFormat (receiver : Receiver) (method : String) : Bool :=
  method == "format" && receiver.simpleName? == some "String"

/-- The greatest number of steps that folding follows from an expression to its parts. -/
def maxFoldDepth : Nat := 8

/-- The text of an expression, if it is found within the given number of levels. -/
def foldWithin (scope : Scope) : Nat → Expr → Option String
  | 0, _ => none
  | _ + 1, .str value => some value
  | _ + 1, .bool value => some (if value then "true" else "false")
  | _ + 1, .number text => some text
  | n + 1, .name text =>
    match scope.resolve text with
    | some value => scope.foldWithin n value
    | none => none
  | n + 1, .lambda result => scope.foldWithin n result
  | n + 1, .call receiver method (first :: _) _ =>
    if isStringFormat receiver method then scope.foldWithin n first else none
  | n + 1, .concat parts => (parts.mapM (scope.foldWithin n)).map String.join
  | _ + 1, _ => none

/-- The text that an expression is known to have. -/
def fold (scope : Scope) (e : Expr) : Option String := scope.foldWithin (maxFoldDepth + 1) e

end Scope

end SuiteLint
