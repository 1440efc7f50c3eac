import SuiteLint.Parsing.SourceText
import SuiteLint.Parsing.Table

/-!
# Subtrees

The trees that a parser puts together. Every subtree knows what it costs: nothing if the text was
faultless, more the more of the text had to be passed over or made up. Of several readings the
cheapest one is kept, then the one of the highest weight.
-/

namespace SuiteLint.Parsing

/-- What a subtree stands for. -/
inductive TreeSymbol where
  | token (index : Nat)
  | phrase (index : Nat)
  /-- A part of the text that fits nowhere. -/
  | fault
  /-- Tokens that are being passed over, and will become part of a fault. -/
  | skipped
deriving Repr, DecidableEq, Inhabited

/-- Where a subtree stands. -/
structure Extent where
  /-- Where the blanks in front start. -/
  lead : Nat
  start : Nat
  stop : Nat
  /-- The bytes of the blanks in front. -/
  leadBytes : Nat
  /-- The bytes of the text. -/
  bytes : Nat
deriving Repr, Inhabited

/-- What is known of a subtree. -/
structure TreeInfo where
  symbol : TreeSymbol
  extent : Extent
  /-- Whether nodes of the symbol appear in trees. -/
  isShown : Bool
  /-- Whether the subtree may stand anywhere. -/
  isExtra : Bool := false
  /-- Whether the token is made up. -/
  isMissing : Bool := false
  /-- Whether the token is a word that starts with a keyword. -/
  startsLikeKeyword : Bool := false
  /-- The state in which the token was read. -/
  state : Nat := 0
  shape : Nat := 0
  /-- The cost of the faults inside. -/
  cost : Nat := 0
  weight : Int := 0
  /-- The number of nodes inside that appear in trees. -/
  descendants : Nat := 0
  /-- The number of nodes that appear as children. -/
  shownChildren : Nat := 0
deriving Repr, Inhabited

/-- A tree of a part of the text. -/
inductive Subtree where
  | node (info : TreeInfo) (children : List Subtree)
deriving Repr, Inhabited

/-! ## Costs -/

namespace Cost

/-- The cost of each fault. -/
def fault : Nat := 500

/-- The cost of a token that is made up, beside that of the fault. -/
def missing : Nat := 110

/-- The cost of each node in a fault. -/
def node : Nat := 100

/-- The cost of each byte in a fault. -/
def byte : Nat := 1

/-- The cost of each line end in a fault. -/
def row : Nat := 30

/-- The cost of passing over a part of a text. -/
def ofSpan (text : SourceText) (start stop : Nat) : Nat :=
  byte * text.bytesBetween start stop + row * text.rowsBetween start stop

end Cost

namespace Subtree

/-- What is known of a subtree. -/
def info : Subtree → TreeInfo
  | node info _ => info

def children : Subtree → List Subtree
  | node _ children => children

def symbol (s : Subtree) : TreeSymbol := s.info.symbol

def extent (s : Subtree) : Extent := s.info.extent

def isExtra (s : Subtree) : Bool := s.info.isExtra

def weight (s : Subtree) : Int := s.info.weight

/-- The cost of a subtree. -/
def cost (s : Subtree) : Nat :=
  if s.info.isMissing then Cost.missing + Cost.fault else s.info.cost

/-- Changes what is known of a subtree. -/
def modifyInfo (f : TreeInfo → TreeInfo) : Subtree → Subtree
  | node info children => node (f info) children

/-- The number of nodes by which a subtree makes a reading longer. -/
def count (s : Subtree) : Nat :=
  s.info.descendants + (if s.info.isShown then 1 else 0)
    + (if s.symbol == .skipped then 1 else 0)

/-- Whether two subtrees stand for the same thing as far as a parser can tell. -/
def isLike (x y : Subtree) : Bool :=
  x.symbol == y.symbol
    && ((0 < x.cost && 0 < y.cost)
      || (x.extent.leadBytes == y.extent.leadBytes && x.extent.bytes == y.extent.bytes
        && x.children.length == y.children.length && x.isExtra == y.isExtra))

/-- Splits off the subtrees at the end that may stand anywhere. -/
def splitExtras (trees : List Subtree) : List Subtree × List Subtree :=
  let behind := (trees.reverse.takeWhile isExtra).reverse
  (trees.take (trees.length - behind.length), behind)

end Subtree

/-! ## Building -/

/-- What the children of a subtree add up to. -/
structure Tally where
  cost : Nat := 0
  weight : Int := 0
  descendants : Nat := 0
  shownChildren : Nat := 0
deriving Inhabited

namespace Tally

/-- Adds a child. In a fault, the nodes of the child cost something. -/
def add (tally : Tally) (inFault isRelabelled : Bool) (c : Subtree) : Tally :=
  let inner := if c.children.isEmpty then 0 else c.info.shownChildren
  let penalty :=
    if !inFault || c.isExtra || (c.symbol == .fault && c.children.isEmpty) then 0
    else if c.info.isShown then Cost.node
    else Cost.node * inner
  let appears := isRelabelled || c.info.isShown
  { cost := tally.cost + (if c.symbol == .skipped then 0 else c.cost) + penalty
    weight := tally.weight + c.weight
    descendants := tally.descendants + c.info.descendants + (if appears then 1 else 0)
    shownChildren := tally.shownChildren + (if appears then 1 else inner) }

end Tally

namespace Table

variable {κ ρ : Type} (t : Table κ ρ) (text : SourceText)

/-- Whether nodes of a symbol appear in trees. -/
def isShown : TreeSymbol → Bool
  | .fault => true
  | .skipped => false
  | .token i =>
    match t.tokenLabels.getD i .concealed with
    | .concealed => false
    | _ => true
  | .phrase i =>
    match t.phraseLabels.getD i .concealed with
    | .concealed => false
    | _ => true

/-- Where a token stands. -/
def tokenExtent (lead start stop : Nat) : Extent :=
  { lead, start, stop
    leadBytes := text.bytesBetween lead start
    bytes := text.bytesBetween start stop }

/-- The subtree of a token, read in a state. -/
def leaf (symbol : TreeSymbol) (extent : Extent) (state : Nat) (startsLikeKeyword : Bool) :
    Subtree :=
  .node
    { symbol, extent, state, startsLikeKeyword
      isShown := t.isShown symbol
      isExtra := symbol == .token t.endToken }
    []

/-- Whether a child is shown as another kind. -/
def isRelabelled (shape : Shape κ ρ) (c : Subtree) : Bool :=
  c.symbol != .token t.endToken && (shape.head?.bind ChildShape.shownKind).isSome

/-- What children add up to. Children that may stand anywhere have no place in the shape. -/
def addUp (inFault : Bool) (tally : Tally) : Shape κ ρ → List Subtree → Tally
  | _, [] => tally
  | shape, c :: rest =>
    if c.isExtra then addUp inFault (tally.add inFault false c) shape rest
    else addUp inFault (tally.add inFault (t.isRelabelled shape c) c) shape.tail rest

/-- Where children stand; without children, at a position. -/
def extentOf (position : Nat) (children : List Subtree) : Extent :=
  match children.head?, children.getLast? with
  | some first, some last =>
    let e := first.extent
    { e with stop := last.extent.stop, bytes := text.bytesBetween e.start last.extent.stop }
  | _, _ => tokenExtent text position position position

/-- The subtree of a symbol with its children; without children it stands at a position. -/
def subtree (symbol : TreeSymbol) (position : Nat) (children : List Subtree) (shape : Nat) :
    Subtree :=
  let isFault := symbol == .fault || symbol == .skipped
  let tally := t.addUp isFault {} (t.shapes.getD shape []) children
  let extent := extentOf text position children
  let own :=
    if isFault then Cost.fault + Cost.ofSpan text extent.start extent.stop else 0
  .node
    { symbol, extent, shape
      isShown := t.isShown symbol
      cost := tally.cost + own
      weight := tally.weight
      descendants := tally.descendants
      shownChildren := tally.shownChildren }
    children

/-! ## Preferences -/

/-- The order of symbols: the end of the text, the word, other tokens, phrases, faults. -/
def orderOf : TreeSymbol → Nat × Nat
  | .token i =>
    if i == t.endToken then (0, 0) else if i == t.word then (0, 1) else (1, i)
  | .phrase i => (2, i)
  | .skipped => (3, 0)
  | .fault => (3, 1)

/-- Compares symbols. -/
def compareSymbols (x y : TreeSymbol) : Ordering :=
  let a := t.orderOf x
  let b := t.orderOf y
  match compare a.1 b.1 with
  | .eq => compare a.2 b.2
  | o => o

mutual

/-- Compares subtrees from left to right. -/
def compareTrees : Subtree → Subtree → Ordering
  | .node a as, .node b bs =>
    match t.compareSymbols a.symbol b.symbol with
    | .eq =>
      match compare as.length bs.length with
      | .eq => compareRows as bs
      | o => o
    | o => o

/-- Compares subtrees one by one. -/
def compareRows : List Subtree → List Subtree → Ordering
  | a :: as, b :: bs =>
    match compareTrees a b with
    | .eq => compareRows as bs
    | o => o
  | _, _ => .eq

end

/-- Whether the second one of two readings of a text is the better one. -/
def prefersSecond (x y : Subtree) : Bool :=
  if y.cost < x.cost then true
  else if x.cost < y.cost then false
  else if x.weight < y.weight then true
  else if y.weight < x.weight then false
  else if 0 < x.cost then true
  else t.compareTrees x y == .gt

end Table

end SuiteLint.Parsing
