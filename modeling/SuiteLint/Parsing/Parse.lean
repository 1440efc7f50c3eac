import SuiteLint.Parsing.Scanning
import SuiteLint.Parsing.Stack

/-!
# Parses

A parse that is under way: the stack with its readings, and the best tree of the whole text so far.
Readings are compared by what they cost, which decides when to give one of them up.
-/

namespace SuiteLint.Parsing

/-- A parse that is under way. -/
structure Parse where
  stack : Stack
  /-- The best tree of the whole text. -/
  finished : Option Subtree := none
  /-- How many trees of the whole text were found. -/
  accepted : Nat := 0
  /-- The token that was read last, and the position before it. -/
  cache : Option (Nat × Subtree) := none
deriving Inhabited

/-- Steps of a parse. -/
abbrev ParseM : Type → Type := StateM Parse

namespace Parse

/-- The greatest number of readings that are followed at once. -/
def maxReadings : Nat := 6

/-- How many more readings may come about in between. -/
def readingOverflow : Nat := 4

/-- The difference of costs, times the nodes read since the fault, at which a reading is given
up. -/
def maxCostDifference : Nat := 18 * Cost.node

/-! ## The stack -/

/-- Asks the stack. -/
def ask {α : Type} (f : Stack → α) : ParseM α := return f (← get).stack

/-- Changes the stack and returns something. -/
def withStack {α : Type} (f : Stack → α × Stack) : ParseM α :=
  modifyGet fun p =>
    match p with
    | ⟨stack, finished, accepted, cache⟩ =>
      let (a, stack) := f stack
      (a, ⟨stack, finished, accepted, cache⟩)

/-- Changes the stack. -/
def change (f : Stack → Stack) : ParseM Unit := withStack fun s => ((), f s)

/-! ## Standings -/

/-- What readings are compared by. -/
structure Standing where
  cost : Nat
  /-- The number of nodes read since the last fault. -/
  count : Nat
  weight : Int
  /-- Whether the reading has lost its way. -/
  isLost : Bool
deriving Repr, Inhabited

/-- The outcome of a comparison: whether one of two readings is better, and whether the other one is
to be given up. -/
inductive Preference where
  | takeFirst
  | preferFirst
  | neither
  | preferSecond
  | takeSecond
deriving Repr, DecidableEq, Inhabited

namespace Standing

/-- Compares the standings of two readings. -/
def compare (x y : Standing) : Preference :=
  if !x.isLost && y.isLost then if x.cost < y.cost then .takeFirst else .preferFirst
  else if x.isLost && !y.isLost then if y.cost < x.cost then .takeSecond else .preferSecond
  else if x.cost < y.cost then
    if maxCostDifference < (y.cost - x.cost) * (1 + x.count) then .takeFirst else .preferFirst
  else if y.cost < x.cost then
    if maxCostDifference < (x.cost - y.cost) * (1 + y.count) then .takeSecond else .preferSecond
  else if y.weight < x.weight then .preferFirst
  else if x.weight < y.weight then .preferSecond
  else .neither

end Standing

/-- The cost of a reading; one that has just lost its way counts as having a fault. -/
def costOf (s : Stack) (r : Nat) : Nat :=
  let top := s.top r
  let hasJustLost :=
    top.state == Table.recoveryState && top.links.head?.any fun l => l.tree.isNone
  top.cost + (if (s.reading r).isPaused || hasJustLost then Cost.fault else 0)

/-- The number of nodes read since the last fault. If there are fewer nodes than at the fault, the
count starts again. -/
def countSinceFault (r : Nat) : ParseM Nat :=
  withStack fun s =>
    let count := (s.top r).count
    let atFault := (s.reading r).countAtFault
    if count < atFault then (0, s.modifyReading r ({ · with countAtFault := count }))
    else (count - atFault, s)

/-- The standing of a reading. -/
def standing (r : Nat) : ParseM Standing := do
  let count ← countSinceFault r
  ask fun s =>
    let isPaused := (s.reading r).isPaused
    let top := s.top r
    { cost := costOf s r + (if isPaused then Cost.node else 0)
      count
      weight := top.weight
      isLost := isPaused || top.state == Table.recoveryState }

/-- Whether one of the readings from the `i`-th one on is better than a standing that a reading is
going to have, in at most `fuel` steps. -/
def isBeatenFrom (r position : Nat) (x : Standing) : Nat → Nat → ParseM Bool
  | 0, _ => return false
  | fuel + 1, i => do
    if (← ask Stack.size) ≤ i then return false
    let isRival ← ask fun s =>
      i != r && (s.reading i).isActive && position ≤ (s.top i).position
    if !isRival then isBeatenFrom r position x fuel (i + 1)
    else
      match x.compare (← standing i) with
      | .takeSecond => return true
      | .preferSecond =>
        if ← ask (·.canJoin i r) then return true else isBeatenFrom r position x fuel (i + 1)
      | _ => isBeatenFrom r position x fuel (i + 1)

/-- Whether there is something better than a reading with a cost that it is going to have. -/
def isBeaten (r cost : Nat) : ParseM Bool := do
  if (← get).finished.any fun t => t.cost ≤ cost then return true
  let top ← ask (·.top r)
  let count ← countSinceFault r
  let x : Standing := { cost, count, weight := top.weight, isLost := false }
  isBeatenFrom r top.position x (← ask Stack.size) 0

/-! ## Making nodes -/

variable {κ ρ : Type} (t : Table κ ρ) (text : SourceText)

/-- A node that was made, and the subtrees that stand behind it. -/
structure Made where
  tree : Subtree
  behind : List Subtree

/-- Makes a node of popped subtrees. -/
def make (phrase shape position : Nat) (trees : List Subtree) : Made :=
  let (children, behind) := Subtree.splitExtras trees
  { tree := t.subtree text (.phrase phrase) position children shape, behind }

/-- The best node that can be made of one of several lists of subtrees. -/
def makeBest (phrase shape position : Nat) (trees : List Subtree)
    (others : List (List Subtree)) : Made :=
  others.foldl
    (fun best trees =>
      let other := make t text phrase shape position trees
      if t.prefersSecond best.tree other.tree then other else best)
    (make t text phrase shape position trees)

/-- The slices of one reading: what was popped first, and what else was popped. -/
structure SliceGroup where
  reading : Nat
  trees : List Subtree
  others : List (List Subtree)

/-- Groups slices by their readings. -/
def groupSlices : List Stack.Slice → List SliceGroup
  | [] => []
  | x :: rest =>
    match groupSlices rest with
    | [] => [{ reading := x.reading, trees := x.trees, others := [] }]
    | g :: more =>
      if g.reading == x.reading then
        { reading := x.reading, trees := x.trees, others := g.trees :: g.others } :: more
      else { reading := x.reading, trees := x.trees, others := [] } :: g :: more

/-- Makes a node of a phrase on each reading that is left. `dropped` readings have gone since. -/
def makeOnAll (r phrase shape : Nat) (weight : Int) (limit : Nat) :
    List SliceGroup → Nat → ParseM Unit
  | [], _ => return ()
  | g :: rest, dropped => do
    let q := g.reading - dropped
    if limit < q then
      change (·.drop q)
      makeOnAll r phrase shape weight limit rest (dropped + 1)
    else
      let top ← ask (·.top q)
      let made := makeBest t text phrase shape top.position g.trees g.others
      let tree := made.tree.modifyInfo fun i => { i with weight := i.weight + weight }
      let state := t.goto top.state phrase
      change fun s => (s.push q (some tree) state).pushAll q made.behind state
      let hasJoined ← withStack (Stack.joinAny q ((List.range q).filter (· != r)))
      makeOnAll r phrase shape weight limit rest (if hasJoined then dropped + 1 else dropped)

/-- Makes a node of a phrase from the last subtrees of a reading. Returns the first reading that
came about. -/
def reduce (r phrase count : Nat) (weight : Int) (shape : Nat) : ParseM (Option Nat) := do
  let before ← ask Stack.size
  let slices ← withStack (·.pop r count)
  let halted ← ask fun s => (s.readings.filter Reading.isHalted).size
  makeOnAll t text r phrase shape weight (maxReadings + readingOverflow + halted)
    (groupSlices slices) 0
  return if before < (← ask Stack.size) then some before else none

/-! ## Whole texts -/

/-- The tree of a whole text: what may stand anywhere becomes part of the last node. -/
def wholeTree (trees : List Subtree) : Option Subtree :=
  let (front, behind) := Subtree.splitExtras trees
  front.getLast?.map fun last =>
    t.subtree text last.symbol 0 (front.dropLast ++ last.children ++ behind) last.info.shape

/-- Notes a tree of the whole text. -/
def noteWhole (tree : Subtree) : ParseM Unit :=
  modify fun p =>
    let isBetter := p.finished.all fun best => t.prefersSecond best tree
    { p with
      finished := if isBetter then some tree else p.finished
      accepted := p.accepted + 1 }

/-- Ends a reading at the end of the text. -/
def accept (r : Nat) (lookahead : Subtree) : ParseM Unit := do
  change (·.push r (some lookahead) Table.startState)
  let slices ← withStack (·.popAll r)
  for x in slices do
    match wholeTree t text x.trees with
    | some tree => noteWhole t tree
    | none => pure ()
  match slices with
  | x :: _ => change (·.drop x.reading)
  | [] => pure ()
  change (·.halt r)

end Parse

end SuiteLint.Parsing
