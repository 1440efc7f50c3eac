import SuiteLint.Parsing.Parse

/-!
# Recovery

What a parser does with a reading that cannot take a token. All nodes that may end here are put
together, a token may be made up if the text can go on behind it, and the reading is marked as lost.
A lost reading passes over tokens, and goes back to a state below as soon as that state takes the
token at hand.
-/

namespace SuiteLint.Parsing

namespace Parse

variable {κ ρ : Type} (t : Table κ ρ) (text : SourceText)

/-- What to do in a state for a symbol. -/
def actionsFor (state : Nat) : TreeSymbol → List Action
  | .token i => t.actions state i
  | _ => []

/-! ## Putting together what may end -/

/-- A node that may be made in a state. -/
structure Reduction where
  phrase : Nat
  count : Nat
  weight : Int
  shape : Nat

/-- What can be done in a state for some tokens. -/
structure Prospects where
  /-- Whether one of the tokens is taken. -/
  takesToken : Bool := false
  /-- The nodes that may be made, each phrase and number of children once. -/
  reductions : List Reduction := []

namespace Prospects

/-- Takes an action into account. -/
def add (p : Prospects) : Action → Prospects
  | .shift _ repeats => if repeats then p else { p with takesToken := true }
  | .recover => { p with takesToken := true }
  | .reduce phrase count weight shape =>
    if count == 0 || p.reductions.any (fun r => r.phrase == phrase && r.count == count) then p
    else { p with reductions := p.reductions ++ [{ phrase, count, weight, shape }] }
  | _ => p

end Prospects

/-- What can be done in a state for some tokens. -/
def prospects (state : Nat) (tokens : List Nat) : Prospects :=
  tokens.foldl (fun p token => (t.actions state token).foldl Prospects.add p) {}

/-- Makes all nodes that may be made, and returns the first reading that the last one brought
about. -/
def reduceAll (r : Nat) : List Reduction → Option Nat → ParseM (Option Nat)
  | [], last => return last
  | x :: rest, _ => do
    let new ← reduce t text r x.phrase x.count x.weight x.shape
    reduceAll r rest new

/-- A bound on the steps in which readings are brought to their ends. -/
def settleBound : Nat := 100000

/-- All tokens but the end of the text: the word first. -/
def allTokens : List Nat :=
  t.word :: (List.range t.endToken).filter (· != t.word)

/-- What readings are brought to. -/
inductive Aim where
  /-- A state that takes a certain token: readings that do not take it are dropped. -/
  | token (i : Nat)
  /-- A state that takes a token, whichever it is: all readings are kept. -/
  | anyToken
deriving Repr, DecidableEq, Inhabited

namespace Aim

/-- The aim of reading on with a symbol. The end of the text is no token in particular, so the text
may have gone on with any. -/
def ofSymbol : TreeSymbol → Aim
  | .token i => if i == t.endToken then .anyToken else .token i
  | _ => .anyToken

/-- The tokens one of which is to be taken. -/
def tokens : Aim → List Nat
  | .token i => [i]
  | .anyToken => allTokens t

end Aim

/-- Gives up a reading that takes none of the tokens aimed at. -/
def giveUp (r : Nat) : Aim → ParseM Unit
  | .token _ => change (·.drop r)
  | .anyToken => return ()

/-- Brings the readings from the `r`-th one on to an aim, in at most `fuel` steps: `first` is the
reading to start with, and those from `fresh` on come about in between. Returns whether any reading
gets there. -/
def settleFrom (aim : Aim) (first fresh : Nat) : Nat → Nat → Nat → Bool → ParseM Bool
  | 0, _, _, arrived => return arrived
  | fuel + 1, round, r, arrived => do
    let size ← ask Stack.size
    if size ≤ r then return arrived
    if ← withStack (Stack.joinAny r (List.range' fresh (r - fresh))) then
      settleFrom aim first fresh fuel (round + 1) r arrived
    else
      let state ← ask fun s => (s.top r).state
      let p := prospects t state (aim.tokens t)
      let new ← reduceAll t text r p.reductions none
      let next := if r == first then size else r + 1
      match p.takesToken, new with
      | true, _ => settleFrom aim first fresh fuel (round + 1) next true
      | false, some q =>
        if round < maxReadings then
          change (·.replace q r)
          settleFrom aim first fresh fuel (round + 1) r arrived
        else
          giveUp r aim
          settleFrom aim first fresh fuel (round + 1) next arrived
      | false, none =>
        giveUp r aim
        settleFrom aim first fresh fuel (round + 1) next arrived

/-- Brings a reading to an aim. Returns whether it gets there. -/
def settle (aim : Aim) (r : Nat) : ParseM Bool := do
  settleFrom t text aim r (← ask Stack.size) settleBound 0 r false

/-! ## Going back -/

/-- Puts what was popped from a reading into a fault on top of it. -/
def bury (trees : List Subtree) (r state : Nat) : ParseM Unit := do
  let before ← withStack (·.popFault r)
  let inside := (before.head?.map Subtree.children).getD []
  let (children, behind) := Subtree.splitExtras (inside ++ trees)
  if !children.isEmpty then
    let fault := (t.subtree text .fault 0 children 0).modifyInfo ({ · with isExtra := true })
    change (·.push r (some fault) state)
  change (·.pushAll r behind state)

/-- Goes back to a state on each reading that has it at its top. `last` is the reading before. -/
def buryAll (state : Nat) : List Stack.Slice → Option Nat → ParseM Bool
  | [], last => return last.isSome
  | x :: rest, last => do
    if last == some x.reading then buryAll state rest last
    else if (← ask fun s => (s.top x.reading).state) != state then
      change (·.halt x.reading)
      buryAll state rest last
    else
      bury t text x.trees x.reading state
      buryAll state rest (some x.reading)

/-- Goes back to a state at some depth. Returns whether there is such a reading. -/
def goBack (r depth state : Nat) : ParseM Bool := do
  let slices ← withStack (·.pop r depth)
  buryAll t text state slices none

/-- Goes back to the first one of some refuges that takes the token at hand, unless this costs too
much. `size` is the number of readings before. -/
def seekRefuge (r size : Nat) (lookahead : Subtree) (position cost : Nat) (hasRead : Bool) :
    List Refuge → ParseM Bool
  | [] => return false
  | f :: rest => do
    if f.state == Table.recoveryState || f.position == position then
      seekRefuge r size lookahead position cost hasRead rest
    else
      let isTaken ← ask fun s =>
        (List.range size).any fun q =>
          (s.top q).state == f.state && (s.top q).position == position
      if isTaken then seekRefuge r size lookahead position cost hasRead rest
      else
        let newCost := cost + f.depth * Cost.node + Cost.ofSpan text f.position position
        if ← isBeaten r newCost then return false
        if (actionsFor t f.state lookahead.symbol).isEmpty then
          seekRefuge r size lookahead position cost hasRead rest
        else if ← goBack t text r (if hasRead then f.depth + 1 else f.depth) f.state then
          return true
        else seekRefuge r size lookahead position cost hasRead rest

/-- Drops the readings from the `i`-th one on that are not active, in at most `fuel` steps. -/
def dropInactive : Nat → Nat → ParseM Unit
  | 0, _ => return ()
  | fuel + 1, i => do
    if (← ask Stack.size) ≤ i then return ()
    if ← ask fun s => (s.reading i).isActive then dropInactive fuel (i + 1)
    else
      change (·.drop i)
      dropInactive fuel i

/-! ## Passing over tokens -/

/-- Passes over a token. -/
def skip (r : Nat) (lookahead : Subtree) (position : Nat) (hasRead : Bool) : ParseM Unit := do
  let isExtra :=
    match (actionsFor t Table.startState lookahead.symbol).getLast? with
    | some .shiftExtra => true
    | _ => false
  let lookahead :=
    if isExtra then lookahead.modifyInfo ({ · with isExtra := true }) else lookahead
  let one := t.subtree text .skipped position [lookahead] 0
  if hasRead then
    let slices ← withStack (·.pop r 1)
    match slices with
    | [] => change (·.push r (some one) Table.recoveryState)
    | x :: _ =>
      change fun s =>
        { s with readings := s.readings.take (x.reading + 1) }
      change (·.replace x.reading r)
      let all := t.subtree text .skipped position (x.trees ++ [one]) 0
      change (·.push r (some all) Table.recoveryState)
  else change (·.push r (some one) Table.recoveryState)

/-- Lets a lost reading go back, end, or pass over a token. -/
def recover (r : Nat) (lookahead : Subtree) : ParseM Unit := do
  let size ← ask Stack.size
  let position ← ask fun s => (s.top r).position
  let hasRead := 0 < (← countSinceFault r)
  let cost ← ask fun s => costOf s r
  let refuges ← ask fun s => (s.reading r).refuges
  let hasGoneBack ←
    if lookahead.symbol == .fault then pure false
    else seekRefuge t text r size lookahead position cost hasRead (refuges.getD [])
  dropInactive (← ask Stack.size) size
  if hasGoneBack && maxReadings < (← ask Stack.size) then change (·.halt r)
  else if lookahead.symbol == .token t.endToken then
    change (·.push r (some (t.subtree text .fault position [] 0)) Table.startState)
    accept t text r lookahead
  else
    let e := lookahead.extent
    let newCost := cost + Cost.node + Cost.ofSpan text e.lead e.stop
    if ← isBeaten r newCost then change (·.halt r)
    else skip t text r lookahead position hasRead

/-! ## Losing the way -/

/-- Tries to make up one of some tokens before the token at hand. Returns whether the text can go on
behind one of them. -/
def makeUp (r position : Nat) (lookahead : Subtree) : List Nat → ParseM Bool
  | [] => return false
  | token :: rest => do
    let state ← ask fun s => (s.top r).state
    let next := t.shifted state token
    let canGoOn := next != Table.recoveryState && next != state &&
      match (actionsFor t next lookahead.symbol).head? with
      | some (.reduce _ _ _ _) => true
      | _ => false
    if !canGoOn then makeUp r position lookahead rest
    else
      let extent := Table.tokenExtent text position position position
      let missing :=
        (t.leaf (.token token) extent 0 false).modifyInfo ({ · with isMissing := true })
      let q ← ask Stack.size
      change fun s =>
        let copy := { s.reading r with refuges := none }
        { s with readings := s.readings.push copy }.push q (some missing) next
      if ← settle t text (.ofSymbol t lookahead.symbol) q then return true
      makeUp r position lookahead rest

/-- Marks readings as lost, and makes up a token on the first one on which this works. -/
def lose (position : Nat) (lookahead : Subtree) : List Nat → Bool → ParseM Unit
  | [], _ => return ()
  | r :: rest, hasMadeUp => do
    let hasMadeUp ←
      if hasMadeUp then pure true else makeUp t text r position lookahead (allTokens t)
    change (·.push r none Table.recoveryState)
    lose position lookahead rest hasMadeUp

/-- Deals with a reading that cannot take a token. -/
def handleFault (r : Nat) (lookahead : Subtree) : ParseM Unit := do
  let before ← ask Stack.size
  let _ ← settle t text .anyToken r
  let size ← ask Stack.size
  let position ← ask fun s => (s.top r).position
  let fresh := List.range' before (size - before)
  lose t text position lookahead (r :: fresh) false
  for _ in fresh do
    let _ ← withStack (·.join r before)
  change fun s =>
    let refuges := s.refugesBelow r
    s.modifyReading r ({ · with refuges := some refuges })
  recover t text r lookahead

end Parse

end SuiteLint.Parsing
