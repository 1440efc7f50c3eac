import SuiteLint.Parsing.Run

/-!
# Syntax trees

The tree of a text as its readers see it: hidden nodes have given their places to their children,
and children are found by the roles that they play.
-/

namespace SuiteLint.Parsing

/-- What a node is. -/
inductive NodeLabel (κ : Type) where
  | kind (k : κ)
  /-- A token without a kind, by its text. -/
  | text (s : String)
  /-- A part of the text that fits nowhere. -/
  | fault
deriving Repr, BEq, Inhabited

/-- What a node with a label of the grammar is; none if it does not appear. -/
def NodeLabel.ofLabel? {κ : Type} : Label κ → Option (NodeLabel κ)
  | .kind k => some (.kind k)
  | .text s => some (.text s)
  | .concealed => none

/-- A node of a syntax tree, with the positions where its text starts and stops. -/
inductive Node (κ ρ : Type) where
  | node (label : NodeLabel κ) (roles : List ρ) (start stop : Nat) (children : List (Node κ ρ))
deriving Inhabited

namespace Node

variable {κ ρ : Type}

/-- What a node is. -/
def label : Node κ ρ → NodeLabel κ
  | node label _ _ _ _ => label

/-- The roles that a node plays. -/
def roles : Node κ ρ → List ρ
  | node _ roles _ _ _ => roles

/-- Where the text of a node starts. -/
def start : Node κ ρ → Nat
  | node _ _ start _ _ => start

/-- Where the text of a node stops. -/
def stop : Node κ ρ → Nat
  | node _ _ _ stop _ => stop

def children : Node κ ρ → List (Node κ ρ)
  | node _ _ _ _ children => children

/-- The kind of a node; tokens without a kind and faults have none. -/
def kind? (n : Node κ ρ) : Option κ :=
  match n.label with
  | .kind k => some k
  | _ => none

/-- Whether a node is more than a token without a kind. -/
def isNamed (n : Node κ ρ) : Bool :=
  match n.label with
  | .text _ => false
  | _ => true

/-- Whether a node is of a kind. -/
def isOf [BEq κ] (n : Node κ ρ) (k : κ) : Bool :=
  match n.label with
  | .kind l => l == k
  | _ => false

/-- Whether a node is a token without a kind, of a text. -/
def isText (n : Node κ ρ) (s : String) : Bool :=
  match n.label with
  | .text r => r == s
  | _ => false

/-- The first child that plays a role. -/
def child? [BEq ρ] (n : Node κ ρ) (role : ρ) : Option (Node κ ρ) :=
  n.children.find? fun c => c.roles.contains role

/-- Adds a role to those of a node. -/
def withRole [BEq ρ] (role : ρ) : Node κ ρ → Node κ ρ
  | node label roles start stop children =>
    node label (if roles.contains role then roles else roles ++ [role]) start stop children

end Node

/-! ## From subtrees to nodes -/

namespace Table

variable {κ ρ : Type} [BEq ρ] (t : Table κ ρ)

/-- What the nodes of a symbol are; none if they do not appear. -/
def labelOf? : TreeSymbol → Option (NodeLabel κ)
  | .fault => some .fault
  | .skipped => none
  | .token i => NodeLabel.ofLabel? (t.tokenLabels.getD i .concealed)
  | .phrase i => NodeLabel.ofLabel? (t.phraseLabels.getD i .concealed)

/-- What a child is, given its place in the shape of the node around it. -/
def childLabel? (place : Option (ChildShape κ ρ)) (symbol : TreeSymbol) : Option (NodeLabel κ) :=
  match place.bind ChildShape.shownKind with
  | some k => if symbol == .token t.endToken then none else some (.kind k)
  | none => t.labelOf? symbol

mutual

/-- Adds the node of a child, or if it is hidden, the nodes of its children. A role of a hidden
child is played by the first one of them. -/
def addChild (place : Option (ChildShape κ ρ)) :
    Subtree → Array (Node κ ρ) → Array (Node κ ρ)
  | .node info children, nodes =>
    let role := place.bind ChildShape.role
    let shape := t.shapes.getD info.shape []
    match t.childLabel? place info.symbol with
    | some label =>
      let inner := addChildren shape children #[]
      nodes.push (.node label role.toList info.extent.start info.extent.stop inner.toList)
    | none =>
      let first := nodes.size
      let nodes := addChildren shape children nodes
      match role with
      | some role => nodes.modify first (Node.withRole role)
      | none => nodes

/-- Adds the nodes of children. Children that may stand anywhere have no place in the shape. -/
def addChildren (shape : Shape κ ρ) : List Subtree → Array (Node κ ρ) → Array (Node κ ρ)
  | [], nodes => nodes
  | c :: rest, nodes =>
    if c.isExtra then addChildren shape rest (addChild none c nodes)
    else addChildren shape.tail rest (addChild shape.head? c nodes)

end

/-- The syntax tree of a text, and whether the text has faults. -/
def rootNode (text : SourceText) : Option (Node κ ρ × Bool) :=
  (t.parse text).bind fun tree =>
    (t.addChild none tree #[])[0]?.map fun root => (root, 0 < tree.cost)

end Table

end SuiteLint.Parsing
