/-!
# Syntax trees

The shape of method bodies, as far as calls and the values of expressions depend on it, and the
declarations of a file. Every other construct is a `node` of its parts in source order. Blanks,
comments and separators are not part of a tree.
-/

namespace SuiteLint.Java

/-- A statement or an expression. Parts that do not matter for its value stand where they occur in
the source. -/
inductive Tree where
  /-- A string literal as written, quotes included, with the parts of its interpolations. -/
  | string (raw : String) (parts : List Tree)
  | bool (value : Bool)
  | null
  /-- A number literal as written. -/
  | number (text : String)
  /-- A name or `this`. -/
  | identifier (name : String)
  /-- A field of an object, a type or a package. -/
  | access (object : Tree) (between : List Tree) (field : String)
  /-- A call on nothing; `line` is where the call starts. -/
  | call (line : Nat) (before : List Tree) (name : String) (args : List Tree)
  /-- A call on an object, with the parts of its type arguments. -/
  | methodCall (line : Nat) (object : Tree) (between : List Tree) (name : String)
      (args : List Tree)
  /-- A lambda, with the parts of its parameters. -/
  | lambda (before : List Tree) (body : Tree)
  | binary (operator : String) (left : Tree) (between : List Tree) (right : Tree)
  /-- What stands in parentheses; its first part counts. -/
  | parenthesized (inner : Tree) (rest : List Tree)
  /-- A cast, with the parts of its type. -/
  | cast (before : List Tree) (value : Tree)
  /-- An object creation: its type as written, the parts before the type, and the parts of the type
  and behind it. -/
  | creation (before : List Tree) (type : String) (behind : List Tree)
  | block (statements : List Tree)
  /-- A return statement; its first part is the value. -/
  | returnStatement (parts : List Tree)
  /-- Anything else. -/
  | node (parts : List Tree)
deriving Repr, Inhabited

/-! ## Declarations -/

/-- A value of an annotation. -/
inductive ElementValue where
  /-- A string literal as written. -/
  | string (raw : String)
  | array (values : List ElementValue)
  | other
deriving Repr, Inhabited

/-- An argument of an annotation. -/
structure MarkerArgument where
  key : Option String
  value : ElementValue
deriving Repr, Inhabited

/-- An annotation of a declaration. -/
structure Marker where
  /-- The name as written, without the qualifier in front of its last dot. -/
  name : String
  arguments : List MarkerArgument
deriving Repr, Inhabited

/-- The modifiers of a declaration. -/
structure Modifiers where
  keywords : List String
  markers : List Marker
deriving Repr, Inhabited

/-- A declared variable. -/
structure Declarator where
  name : String
  value : Option Tree
deriving Repr, Inhabited

/-- A declared field, or several of one type. -/
structure FieldDeclaration where
  modifiers : Modifiers
  /-- The type as written. -/
  type : String
  declarators : List Declarator
deriving Repr, Inhabited

/-- A declared method. -/
structure MethodDeclaration where
  modifiers : Modifiers
  name : String
  /-- The line of the name. -/
  line : Nat
  body : Option Tree
deriving Repr, Inhabited

/-- A member of a class body. -/
inductive Member where
  | field (declaration : FieldDeclaration)
  | method (declaration : MethodDeclaration)
  | other
deriving Repr, Inhabited

/-- A class, enum or record at the top of a file. -/
structure ClassDeclaration where
  modifiers : Modifiers
  name : String
  /-- The line of the name. -/
  line : Nat
  /-- The super class as written. -/
  superclass : Option String
  /-- The interfaces as written. -/
  interfaces : List String
  members : List Member
deriving Repr, Inhabited

/-- A source file. -/
structure SourceFile where
  package : String
  /-- The static imports, a wildcard as `.*` at the end. -/
  staticImports : List String
  classes : List ClassDeclaration
  /-- Whether some part of the file could not be read. -/
  hasErrors : Bool
deriving Repr, Inhabited

end SuiteLint.Java
