import SuiteLint.Java.Grammar.Kind
import SuiteLint.Java.Tree
import SuiteLint.Parsing.Node
import SuiteLint.Text.Blank
import SuiteLint.Text.Split

/-!
# Reading nodes

What the nodes of a parsed text mean: trees of statements and expressions, and the declarations of a
file. Nodes are read by their kinds, children by their roles, so that a text with faults is read as
far as its nodes go.
-/

namespace SuiteLint.Java

open SuiteLint.Parsing (SourceText NodeLabel)

/-- A node of a parsed text. -/
abbrev SourceNode : Type := Parsing.Node Kind Role

namespace SourceNode

/-- The text of a node. -/
def text (source : SourceText) (n : SourceNode) : String := source.between n.start n.stop

/-- The line where a node starts. -/
def line (source : SourceText) (n : SourceNode) : Nat := source.lineAt n.start

/-- Whether a node counts as a part of the node around it. -/
def isPart (n : SourceNode) : Bool := n.isNamed && !n.kind?.any Kind.isComment

/-- The children that count as parts. -/
def parts (n : SourceNode) : List SourceNode := n.children.filter isPart

end SourceNode

/-! ## Statements and expressions -/

/-- A child of a node together with its tree. -/
structure Branch where
  node : SourceNode
  tree : Tree

namespace Branch

/-- Whether a child plays a role. -/
def plays (role : Role) (b : Branch) : Bool := b.node.roles.contains role

/-- The first child that plays a role, with the children before and behind it. -/
def split? (role : Role) : List Branch → Option (List Branch × Branch × List Branch)
  | [] => none
  | b :: rest =>
    if b.plays role then some ([], b, rest)
    else (split? role rest).map fun (before, found, behind) => (b :: before, found, behind)

/-- The trees of the children that count as parts. -/
def trees (bs : List Branch) : List Tree :=
  (bs.filter fun b => SourceNode.isPart b.node).map Branch.tree

end Branch

namespace Tree

/-- The parts of a tree that is nothing but its parts. -/
def parts : Tree → List Tree
  | node parts => parts
  | _ => []

/-- The tree of a field access. -/
def ofAccess (source : SourceText) (bs : List Branch) : Tree :=
  match Branch.split? .object bs with
  | none => node (Branch.trees bs)
  | some (before, object, rest) =>
    match Branch.split? .field rest with
    | none => node (Branch.trees bs)
    | some (between, field, behind) =>
      access object.tree (Branch.trees (before ++ between ++ behind)) (field.node.text source)

/-- The tree of a call that starts on a line. -/
def ofCall (source : SourceText) (line : Nat) (bs : List Branch) : Tree :=
  let name := ((bs.find? (Branch.plays .name)).map fun b => b.node.text source).getD ""
  let (front, args) :=
    match Branch.split? .arguments bs with
    | none => (bs, [])
    | some (front, args, behind) => (front ++ behind, args.tree.parts)
  match Branch.split? .object front with
  | none => call line (Branch.trees front) name args
  | some (before, object, rest) =>
    methodCall line object.tree (Branch.trees (before ++ rest)) name args

/-- The text of an operator. -/
def operatorText (b : Branch) : String :=
  match b.node.label with
  | .text s => s
  | _ => ""

/-- The tree of an operator with two operands. -/
def ofBinary (bs : List Branch) : Tree :=
  match Branch.split? .left bs, bs.find? (Branch.plays .operator) with
  | some (before, left, rest), some operator =>
    match Branch.split? .right rest with
    | none => node (Branch.trees bs)
    | some (between, right, behind) =>
      binary (operatorText operator) left.tree (Branch.trees (before ++ between ++ behind))
        right.tree
  | _, _ => node (Branch.trees bs)

/-- The tree of what stands in parentheses. -/
def ofParenthesized (bs : List Branch) : Tree :=
  match Branch.trees bs with
  | [] => node []
  | inner :: rest => parenthesized inner rest

/-- The tree of an object creation. -/
def ofCreation (source : SourceText) (bs : List Branch) : Tree :=
  match Branch.split? .type bs with
  | none => node (Branch.trees bs)
  | some (before, type, behind) =>
    creation (Branch.trees before) (type.node.text source) (Branch.trees (type :: behind))

/-- The tree of a node that ends with a child that plays a role. -/
def ofLast (role : Role) (make : List Tree → Tree → Tree) (bs : List Branch) : Tree :=
  match Branch.split? role bs with
  | none => node (Branch.trees bs)
  | some (before, last, behind) => make (Branch.trees (before ++ behind)) last.tree

/-- The tree of a node of a kind. -/
def ofKind (source : SourceText) (kind : Kind) (start stop : Nat) (bs : List Branch) : Tree :=
  match kind with
  | .stringLiteral => string (source.between start stop) (Branch.trees bs)
  | .trueLiteral => bool true
  | .falseLiteral => bool false
  | .nullLiteral => null
  | .identifier | .thisReference => identifier (source.between start stop)
  | .fieldAccess => ofAccess source bs
  | .methodInvocation => ofCall source (source.lineAt start) bs
  | .lambdaExpression => ofLast .body lambda bs
  | .binaryExpression => ofBinary bs
  | .parenthesizedExpression => ofParenthesized bs
  | .castExpression => ofLast .value cast bs
  | .objectCreation => ofCreation source bs
  | .block => block (Branch.trees bs)
  | .returnStatement => returnStatement (Branch.trees bs)
  | _ => if kind.isNumber then number (source.between start stop) else node (Branch.trees bs)

mutual

/-- The tree of a node. -/
def ofNode (source : SourceText) : SourceNode → Tree
  | .node label _ start stop children =>
    let bs := branchesOf source children
    match label with
    | .kind kind => ofKind source kind start stop bs
    | _ => node (Branch.trees bs)

/-- Nodes with their trees. -/
def branchesOf (source : SourceText) : List SourceNode → List Branch
  | [] => []
  | n :: rest => { node := n, tree := ofNode source n } :: branchesOf source rest

end

end Tree

/-! ## Annotations and modifiers -/

mutual

/-- The value of an annotation. -/
def ElementValue.ofNode (source : SourceText) : SourceNode → ElementValue
  | .node (.kind .stringLiteral) _ start stop _ => .string (source.between start stop)
  | .node (.kind .elementArray) _ _ _ children => .array (ElementValue.ofNodes source children)
  | _ => .other

/-- The values of an annotation among some nodes. -/
def ElementValue.ofNodes (source : SourceText) : List SourceNode → List ElementValue
  | [] => []
  | n :: rest => ElementValue.ofNode source n :: ElementValue.ofNodes source rest

end

/-- The argument of an annotation. -/
def MarkerArgument.ofNode (source : SourceText) (n : SourceNode) : MarkerArgument :=
  if n.isOf .elementPair then
    { key := some (((n.child? .key).map (SourceNode.text source)).getD "")
      value := ((n.child? .value).map (ElementValue.ofNode source)).getD .other }
  else { key := none, value := ElementValue.ofNode source n }

/-- An annotation. -/
def Marker.ofNode (source : SourceText) (n : SourceNode) : Marker :=
  { name := ((n.child? .name).map fun m => Text.simpleName (SourceNode.text source m)).getD ""
    arguments := ((n.child? .arguments).map fun list =>
      (SourceNode.parts list).map (MarkerArgument.ofNode source)).getD [] }

/-- The modifiers of a declaration. -/
def Modifiers.ofNode (source : SourceText) (n : SourceNode) : Modifiers :=
  match n.children.find? (·.isOf .modifiers) with
  | none => { keywords := [], markers := [] }
  | some m =>
    { keywords := m.children.filterMap fun c =>
        match c.label with
        | .text s => some s
        | _ => none
      markers := (m.children.filter fun c => c.isOf .marker || c.isOf .bareMarker).map
        (Marker.ofNode source) }

/-! ## Members -/

/-- A declared variable. -/
def Declarator.ofNode? (source : SourceText) (n : SourceNode) : Option Declarator :=
  (n.child? .name).map fun name =>
    { name := SourceNode.text source name, value := (n.child? .value).map (Tree.ofNode source) }

/-- A declaration of fields. -/
def FieldDeclaration.ofNode (source : SourceText) (n : SourceNode) : FieldDeclaration :=
  { modifiers := Modifiers.ofNode source n
    type := ((n.child? .type).map (SourceNode.text source)).getD ""
    declarators := (n.children.filter (·.isOf .variableDeclarator)).filterMap
      (Declarator.ofNode? source) }

/-- A declaration of a method. -/
def MethodDeclaration.ofNode (source : SourceText) (n : SourceNode) : MethodDeclaration :=
  let name := n.child? .name
  { modifiers := Modifiers.ofNode source n
    name := (name.map (SourceNode.text source)).getD ""
    line := (name.map (SourceNode.line source)).getD 0
    body := (n.child? .body).map (Tree.ofNode source) }

/-- A member of a class. -/
def Member.ofNode (source : SourceText) (n : SourceNode) : Member :=
  match n.kind? with
  | some .fieldDeclaration => .field (FieldDeclaration.ofNode source n)
  | some .methodDeclaration => .method (MethodDeclaration.ofNode source n)
  | _ => .other

/-- The members in a body; those of an enum stand behind its constants. -/
def membersOf (body : SourceNode) : List SourceNode :=
  (SourceNode.parts body).flatMap fun c =>
    if c.isOf .enumBodyDeclarations then SourceNode.parts c else [c]

/-- The types in a list of interfaces. -/
def interfacesOf (list : SourceNode) : List SourceNode :=
  (SourceNode.parts list).flatMap fun c => if c.isOf .typeList then SourceNode.parts c else [c]

/-- A declaration of a class, enum or record. -/
def ClassDeclaration.ofNode? (source : SourceText) (n : SourceNode) : Option ClassDeclaration :=
  (n.child? .name).map fun name =>
    { modifiers := Modifiers.ofNode source n
      name := SourceNode.text source name
      line := SourceNode.line source name
      superclass := ((n.child? .superclass).bind fun s => (SourceNode.parts s).head?).map
        (SourceNode.text source)
      interfaces := ((n.child? .interfaces).map interfacesOf).getD [] |>.map
        (SourceNode.text source)
      members := (((n.child? .body).map membersOf).getD []).map (Member.ofNode source) }

/-! ## Files -/

namespace SourceFile

/-- The dotted name that a declaration holds. -/
def nameIn? (source : SourceText) (n : SourceNode) : Option String :=
  ((SourceNode.parts n).find? fun c => c.isOf .identifier || c.isOf .scopedIdentifier).map
    fun c =>
      let text := SourceNode.text source c
      if c.isOf .identifier then text
      else String.ofList (text.toList.filter fun c => !Text.isBlank c)

/-- The static import that a node declares, if it is one. -/
def staticImport? (source : SourceText) (n : SourceNode) : Option String :=
  if n.isOf .importDeclaration && n.children.any (·.isText "static") then
    (nameIn? source n).map fun name =>
      if n.children.any (·.isOf .asterisk) then name ++ ".*" else name
  else none

/-- The package that a node declares, if it does. -/
def package? (source : SourceText) (n : SourceNode) : Option String :=
  if n.isOf .packageDeclaration then nameIn? source n else none

/-- The class that a node declares, if it does. -/
def class? (source : SourceText) (n : SourceNode) : Option ClassDeclaration :=
  if n.isOf .classDeclaration || n.isOf .enumDeclaration || n.isOf .recordDeclaration then
    ClassDeclaration.ofNode? source n
  else none

/-- The file of a parsed text. The last one of several packages counts. -/
def ofNode (source : SourceText) (root : SourceNode) (hasErrors : Bool) : SourceFile :=
  let nodes := SourceNode.parts root
  { package := (nodes.filterMap (package? source)).getLast?.getD ""
    staticImports := nodes.filterMap (staticImport? source)
    classes := nodes.filterMap (class? source)
    hasErrors }

end SourceFile

end SuiteLint.Java
