import SuiteLint.Parsing.Subtree

/-!
# Stacks with several tops

While a parser cannot tell which of several readings is right, it follows all of them. Their stacks
share what they have in common: a node of the stack has links to the nodes below it, each with the
subtree between the two. Readings that come to the same state at the same position are joined again.
Nodes are named by numbers, so that they can be changed where they are shared.
-/

namespace SuiteLint.Parsing

/-- A link to a node below. The link of a reading that lost its way has no subtree. -/
structure Link where
  node : Nat
  tree : Option Subtree
deriving Inhabited

/-- A node of the stack. -/
structure StackNode where
  state : Nat
  links : List Link
  position : Nat
  /-- The cost of all subtrees below. -/
  cost : Nat
  /-- The number of nodes in all subtrees below. -/
  count : Nat
  /-- The weight of all subtrees below. -/
  weight : Int
deriving Inhabited

/-- A state below the top of a reading that lost its way, to which it might go back. -/
structure Refuge where
  position : Nat
  depth : Nat
  state : Nat
deriving Repr, Inhabited

/-- How a reading goes on. -/
inductive ReadingStatus where
  | active
  /-- The reading cannot take a token. -/
  | paused (lookahead : Subtree)
  | halted
deriving Inhabited

/-- A reading of the text up to some position. -/
structure Reading where
  /-- The node at the top. -/
  node : Nat
  /-- The number of nodes at the last fault. -/
  countAtFault : Nat := 0
  status : ReadingStatus := .active
  refuges : Option (List Refuge) := none
deriving Inhabited

namespace Reading

def isActive (r : Reading) : Bool :=
  match r.status with
  | .active => true
  | _ => false

def isHalted (r : Reading) : Bool :=
  match r.status with
  | .halted => true
  | _ => false

def isPaused (r : Reading) : Bool :=
  match r.status with
  | .paused _ => true
  | _ => false

end Reading

/-- A stack. -/
structure Stack where
  nodes : Array StackNode
  readings : Array Reading
deriving Inhabited

namespace StackNode

/-- The node that a subtree, or nothing, leads to from another node. -/
def onTop (below : StackNode) (index : Nat) (tree : Option Subtree) (state : Nat) : StackNode :=
  match tree with
  | none => { below with state, links := [{ node := index, tree }] }
  | some s =>
    { state
      links := [{ node := index, tree }]
      position := s.extent.stop
      cost := below.cost + s.cost
      count := below.count + s.count
      weight := below.weight + s.weight }

/-- Whether two nodes can be joined. -/
def canJoin (x y : StackNode) : Bool :=
  x.state == y.state && x.position == y.position && x.cost == y.cost

end StackNode

namespace Link

/-- Whether the subtrees of two links stand for the same thing. -/
def isLike (x y : Link) : Bool :=
  match x.tree, y.tree with
  | none, none => true
  | some s, some t => s.isLike t
  | _, _ => false

/-- The weight of the subtree of a link. -/
def weight (l : Link) : Int := (l.tree.map Subtree.weight).getD 0

/-- The number of nodes in the subtree of a link. -/
def count (l : Link) : Nat := (l.tree.map Subtree.count).getD 0

end Link

namespace Stack

/-- The greatest number of links of a node. -/
def maxLinks : Nat := 8

/-- The greatest number of ways down a stack that are followed at once. -/
def maxWalkers : Nat := 64

/-- The greatest depth at which a refuge is looked for. -/
def maxRefugeDepth : Nat := 16

/-- The stack of a parser at the start of a text. -/
def atStart (state : Nat) : Stack :=
  { nodes := #[{ state, links := [], position := 0, cost := 0, count := 0, weight := 0 }]
    readings := #[{ node := 0 }] }

variable (s : Stack)

def node (i : Nat) : StackNode := s.nodes.getD i default

def reading (r : Nat) : Reading := s.readings.getD r default

/-- The node at the top of a reading. -/
def top (r : Nat) : StackNode := s.node (s.reading r).node

/-- The number of readings. -/
def size : Nat := s.readings.size

/-- Changes a reading. -/
def modifyReading (r : Nat) (f : Reading → Reading) : Stack :=
  { s with readings := s.readings.modify r f }

/-- Drops a reading. -/
def drop (r : Nat) : Stack := { s with readings := s.readings.eraseIdxIfInBounds r }

/-- Stops following a reading. -/
def halt (r : Nat) : Stack := s.modifyReading r ({ · with status := .halted })

/-- Pushes a subtree, or nothing, onto a reading. -/
def push (r : Nat) (tree : Option Subtree) (state : Nat) : Stack :=
  let index := s.nodes.size
  let reading := s.reading r
  let new := (s.node reading.node).onTop reading.node tree state
  let reading :=
    match tree with
    | none => { reading with node := index, countAtFault := new.count }
    | some _ => { reading with node := index }
  { nodes := s.nodes.push new
    readings := s.readings.setIfInBounds r reading }

/-- Pushes subtrees onto a reading. -/
def pushAll (r : Nat) (trees : List Subtree) (state : Nat) : Stack :=
  trees.foldl (fun s t => s.push r (some t) state) s

/-- Puts a reading in the place of another one. -/
def replace (r target : Nat) : Stack :=
  if r == target then s
  else
    let new := s.reading r
    let new := { new with refuges := new.refuges.or (s.reading target).refuges }
    { s with readings := (s.readings.setIfInBounds target new).eraseIdxIfInBounds r }

/-- Exchanges two readings. -/
def exchange (r q : Nat) : Stack :=
  let x := s.reading r
  let y := s.reading q
  { s with readings := (s.readings.setIfInBounds r y).setIfInBounds q x }

/-! ## Joining readings -/

/-- Adds a link to a node. A link that is like another one to a node that can be joined with its own
node becomes part of it, in at most `fuel` levels. -/
def addLink : Nat → Array StackNode → Nat → Link → Array StackNode
  | 0, nodes, _, _ => nodes
  | fuel + 1, nodes, i, link =>
    if link.node == i then nodes
    else
      let own := nodes.getD i default
      let below := nodes.getD link.node default
      let weight := below.weight + link.weight
      let place := own.links.findIdx? fun l =>
        l.isLike link && (l.node == link.node || (nodes.getD l.node default).canJoin below)
      match place.bind fun p => (own.links[p]?).map (p, ·) with
      | some (p, l) =>
        if l.node == link.node then
          if l.weight < link.weight then
            nodes.setIfInBounds i
              { own with links := own.links.set p { l with tree := link.tree }, weight }
          else nodes
        else
          let nodes := below.links.foldl (fun nodes k => addLink fuel nodes l.node k) nodes
          nodes.modify i fun n => { n with weight := max n.weight weight }
      | none =>
        if maxLinks ≤ own.links.length then nodes
        else
          nodes.setIfInBounds i
            { own with
              links := own.links ++ [link]
              count := max own.count (below.count + link.count)
              weight := max own.weight weight }

/-- Whether two readings can be joined. -/
def canJoin (r q : Nat) : Bool :=
  (s.reading r).isActive && (s.reading q).isActive && (s.top r).canJoin (s.top q)

/-- Joins the second reading with the first one, if they can be joined. -/
def join (r q : Nat) : Bool × Stack :=
  if s.canJoin r q then
    let i := (s.reading r).node
    let links := (s.top q).links
    let depth := s.nodes.size + 1
    let readings := s.readings
    let nodes := links.foldl (fun nodes l => addLink depth nodes i l) s.nodes
    let joined := nodes.getD i default
    let readings :=
      if joined.state == Table.recoveryState then
        readings.modify r ({ · with countAtFault := joined.count })
      else readings
    (true, { nodes, readings := readings.eraseIdxIfInBounds q })
  else (false, s)

/-- Joins a reading with the first one of some others with which it can be joined. -/
def joinAny (q : Nat) : List Nat → Stack → Bool × Stack
  | [], s => (false, s)
  | r :: rest, s =>
    match s.join r q with
    | (true, s) => (true, s)
    | (false, s) => joinAny q rest s

/-! ## Going down -/

/-- A way down a stack: the node that was reached, the subtrees above it, and how many of them may
not stand anywhere. -/
structure Walker where
  node : Nat
  trees : List Subtree := []
  depth : Nat := 0
deriving Inhabited

namespace Walker

/-- Goes down a link. -/
def follow (w : Walker) (l : Link) : Walker :=
  match l.tree with
  | none => { w with node := l.node, depth := w.depth + 1 }
  | some t =>
    { node := l.node
      trees := t :: w.trees
      depth := if t.isExtra then w.depth else w.depth + 1 }

/-- The ways that branch off, as long as there are not too many ways. -/
def branches (w : Walker) (room : Nat) (links : List Link) : List Walker :=
  (links.take room).map w.follow

end Walker

/-- What to do at a node. -/
structure Verdict where
  /-- Whether to keep the way as a result. -/
  keeps : Bool := false
  stops : Bool := false

/-- The ways down a stack, while they are being followed. -/
structure Walk (σ : Type) where
  state : σ
  /-- The number of ways. -/
  size : Nat
  /-- The ways that are kept as results, the last one first. -/
  kept : List Walker := []

variable {σ : Type} (nodes : Array StackNode) (visit : σ → Walker → σ × Verdict)

/-- Takes all ways one step further: the same ways at their next nodes, and those that branch
off. -/
def walkStep : List Walker → Walk σ → List Walker × List Walker × Walk σ
  | [], walk => ([], [], walk)
  | w :: rest, walk =>
    let (state, verdict) := visit walk.state w
    let kept := if verdict.keeps then w :: walk.kept else walk.kept
    match verdict.stops, (nodes.getD w.node default).links with
    | false, l :: links =>
      let more := w.branches (maxWalkers - walk.size) links
      let (next, branches, walk) :=
        walkStep rest { state, kept, size := walk.size + more.length }
      (w.follow l :: next, more ++ branches, walk)
    | _, _ => walkStep rest { state, kept, size := walk.size - 1 }

/-- Follows all ways down, in at most `fuel` steps. -/
def walk : Nat → List Walker → Walk σ → Walk σ
  | 0, _, walk => walk
  | _, [], walk => walk
  | fuel + 1, walkers, w =>
    let (next, branches, w) := walkStep nodes visit walkers w
    walk fuel (next ++ branches) w

/-- Follows all ways down from the top of a reading. -/
def walkDown (r : Nat) (visit : σ → Walker → σ × Verdict) (state : σ) : Walk σ :=
  walk s.nodes visit (s.nodes.size + 1) [{ node := (s.reading r).node }] { state, size := 1 }

/-! ## Popping -/

/-- What was popped from a reading, and the reading that is left. -/
structure Slice where
  reading : Nat
  trees : List Subtree
deriving Inhabited

/-- Puts a slice behind the last one of its reading. -/
def placeSlice (new : Slice) : List Slice → List Slice
  | [] => [new]
  | x :: rest =>
    if x.reading == new.reading && !rest.any (·.reading == new.reading) then x :: new :: rest
    else x :: placeSlice new rest

/-- Adds a slice for a way down. Ways that end at one node share a reading. -/
def addSlice (countAtFault : Nat) (so : List Slice × Array Reading) (w : Walker) :
    List Slice × Array Reading :=
  let (slices, readings) := so
  match slices.reverse.find? fun x => (readings.getD x.reading default).node == w.node with
  | some x => (placeSlice { reading := x.reading, trees := w.trees } slices, readings)
  | none =>
    (slices ++ [{ reading := readings.size, trees := w.trees }],
      readings.push { node := w.node, countAtFault })

/-- Makes readings of ways down from a reading. -/
def slices (r : Nat) (ways : List Walker) : List Slice × Stack :=
  let count := (s.reading r).countAtFault
  let (slices, readings) := ways.foldl (addSlice count) ([], s.readings)
  (slices, { s with readings })

/-- Pops some subtrees from a reading, those that may stand anywhere not counted. -/
def pop (r count : Nat) : List Slice × Stack :=
  let visit := fun (_ : Unit) (w : Walker) =>
    ((), { keeps := w.depth == count, stops := w.depth == count : Verdict })
  let ways := (s.walkDown r visit ()).kept.reverse
  s.slices r ways

/-- Pops all subtrees from a reading. -/
def popAll (r : Nat) : List Slice × Stack :=
  let nodes := s.nodes
  let visit := fun (_ : Unit) (w : Walker) =>
    ((), { keeps := (nodes.getD w.node default).links.isEmpty : Verdict })
  let ways := (s.walkDown r visit ()).kept.reverse
  s.slices r ways

/-- Whether a subtree is a fault. -/
def isFault (t : Subtree) : Bool := t.symbol == .fault

/-- Pops the fault at the top of a reading, if there is one. -/
def popFault (r : Nat) : List Subtree × Stack :=
  if (s.top r).links.any fun l => l.tree.any isFault then
    let visit := fun (found : Bool) (w : Walker) =>
      match w.trees with
      | [] => (found, {})
      | t :: _ =>
        if !found && isFault t then (true, { keeps := true, stops := true : Verdict })
        else (found, { stops := true })
    let ways := (s.walkDown r visit false).kept.reverse
    let (slices, s) := s.slices r ways
    match slices with
    | [] => ([], s)
    | x :: _ => (x.trees, s.replace x.reading r)
  else ([], s)

/-! ## Refuges -/

/-- Whether a refuge is known already; `refuges` has the last one first. -/
def knowsRefuge (state depth : Nat) (refuges : List Refuge) : Bool :=
  (refuges.takeWhile fun f => depth ≤ f.depth).any fun f => f.depth == depth && f.state == state

/-- The states below the top of a reading, the highest ones first. -/
def refugesBelow (r : Nat) : List Refuge :=
  let nodes := s.nodes
  let visit := fun (found : List Refuge) (w : Walker) =>
    let n := nodes.getD w.node default
    if maxRefugeDepth < w.depth then (found, { stops := true : Verdict })
    else if knowsRefuge n.state w.depth found then (found, {})
    else ({ position := n.position, depth := w.depth, state := n.state } :: found, {})
  (s.walkDown r visit []).state.reverse

end Stack

end SuiteLint.Parsing
