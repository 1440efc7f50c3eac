import SuiteLint.Parsing.Recovery

/-!
# Running a parse

All readings are taken forward token by token. After each token, readings are compared: those that
are much worse than another one are given up, equal ones are joined, and if all readings are stuck,
the best one recovers.
-/

namespace SuiteLint.Parsing

namespace Parse

variable {κ ρ : Type} (t : Table κ ρ) (text : SourceText)

/-! ## Tokens -/

/-- Whether a token that was read in another state would be read again in a state. -/
def canReuse (state : Nat) (token : Subtree) : Bool :=
  match token.symbol with
  | .token i =>
    let isSameMode := (t.state state).mode == (t.state token.info.state).mode
    if (t.actions state i).isEmpty then false
    else if isSameMode
        && (i != t.word || (!token.info.startsLikeKeyword && token.info.state == state)) then true
    else if token.extent.bytes == 0 && i != t.endToken then false
    else (t.state state).reusable.contains i
  | _ => false

/-- The next token of a reading. -/
def nextToken (state position : Nat) : ParseM Subtree := do
  let known := (← get).cache.bind fun (p, token) =>
    if p == position && canReuse t state token then some token else none
  match known with
  | some token => return token
  | none =>
    let token := t.scan text state position
    modify ({ · with cache := some (position, token) })
    return token

/-! ## One token -/

/-- How a reading came out of some actions. -/
inductive Outcome where
  /-- The token has been dealt with. -/
  | done
  /-- Nodes were made; the first reading that the last one of them brought about. -/
  | reduced (reading : Option Nat)
  /-- There was nothing to do. -/
  | stuck

/-- Takes a token. -/
def shift (r state : Nat) (token : Subtree) (isExtra : Bool) : ParseM Unit :=
  change (·.push r (some (token.modifyInfo ({ · with isExtra }))) state)

/-- Carries out actions. -/
def perform (r state : Nat) (token : Subtree) : List Action → Outcome → ParseM Outcome
  | [], so => return so
  | action :: rest, so =>
    match action with
    | .shift target repeats => do
      if repeats then perform r state token rest so
      else
        shift r target token false
        return .done
    | .shiftExtra => do
      shift r state token true
      return .done
    | .reduce phrase count weight shape => do
      let new ← reduce t text r phrase count weight shape
      let so :=
        match so, new with
        | .reduced last, none => .reduced last
        | _, new => .reduced new
      perform r state token rest so
    | .accept => do
      accept t text r token
      return .done
    | .recover => do
      recover t text r token
      return .done

/-- Takes a reading forward over a token, in at most `fuel` steps. Where there is nothing to do for
a keyword, it is taken as a word, if words are taken. Otherwise a reading that has lost its way goes
on recovering, and any other one pauses. -/
def takeToken (r : Nat) : Nat → Nat → Subtree → ParseM Unit
  | 0, _, _ => change (·.halt r)
  | fuel + 1, state, token => do
    match ← perform t text r state token (actionsFor t state token.symbol) .stuck with
    | .done => return ()
    | .reduced (some new) =>
      change (·.replace new r)
      takeToken r fuel (← ask fun s => (s.top r).state) token
    | .reduced none => change (·.halt r)
    | .stuck =>
      let canBeWord := token.info.startsLikeKeyword && token.symbol != .token t.word
        && !(t.actions state t.word).isEmpty
      if canBeWord then
        takeToken r fuel state
          (token.modifyInfo fun i =>
            { i with symbol := .token t.word, isShown := t.isShown (.token t.word) })
      else if state == Table.recoveryState then recover t text r token
      else
        change fun s =>
          let count := (s.top r).count
          s.modifyReading r ({ · with status := .paused token, countAtFault := count })

/-- A bound on the steps that a text can take. -/
def stepBound : Nat := 1000 * (text.size + 100)

/-- Takes a reading forward over the next token. -/
def advance (r : Nat) : ParseM Unit := do
  let state ← ask fun s => (s.top r).state
  let position ← ask fun s => (s.top r).position
  let token ← nextToken t text state position
  takeToken t text r (stepBound text) state token

/-! ## Comparing readings -/

/-- Compares the `i`-th reading with those before it from the `j`-th one on, in at most `fuel`
steps. Returns the reading to go on with. -/
def compareFrom (x : Standing) : Nat → Nat → Nat → ParseM Nat
  | 0, i, _ => return i + 1
  | fuel + 1, i, j => do
    if i ≤ j then return i + 1
    match (← standing j).compare x with
    | .takeFirst =>
      change (·.drop i)
      return i
    | .preferFirst | .neither =>
      if ← withStack (·.join j i) then return i
      compareFrom x fuel i (j + 1)
    | .preferSecond =>
      if ← withStack (·.join j i) then return i
      change (·.exchange i j)
      compareFrom x fuel i (j + 1)
    | .takeSecond =>
      change (·.drop j)
      compareFrom x fuel (i - 1) j

/-- The lower one of two costs, of which the first one may not be there. -/
def lowerCost (least : Option Nat) (cost : Nat) : Option Nat :=
  match least with
  | none => some cost
  | some c => some (min c cost)

/-- Compares all readings from the `i`-th one on, in at most `fuel` steps. Returns the least cost of
a reading that has not lost its way. -/
def compareAll : Nat → Nat → Option Nat → ParseM (Option Nat)
  | 0, _, least => return least
  | fuel + 1, i, least => do
    if (← ask Stack.size) ≤ i then return least
    if ← ask fun s => (s.reading i).isHalted then
      change (·.drop i)
      compareAll fuel i least
    else
      let x ← standing i
      let least := if x.isLost then least else lowerCost least x.cost
      let next ← compareFrom x (← ask Stack.size) i 0
      compareAll fuel next least

/-- Lets the first paused reading recover, if no better one is left, and drops the other ones, in at
most `fuel` steps. `size` is the number of readings that are looked at. -/
def resume (size : Nat) : Nat → Nat → Bool → Option Nat → ParseM (Option Nat)
  | 0, _, _, least => return least
  | fuel + 1, i, isGoing, least => do
    if size ≤ i then return least
    match (← ask fun s => (s.reading i).status) with
    | .paused lookahead =>
      if !isGoing && (← get).accepted < maxReadings then
        let cost ← ask fun s => costOf s i
        change (·.modifyReading i ({ · with status := .active }))
        handleFault t text i lookahead
        resume size fuel (i + 1) true (some cost)
      else
        change (·.drop i)
        resume (size - 1) fuel i isGoing least
    | _ => resume size fuel (i + 1) true least

/-- Compares readings, gives the worst ones up, and lets one of them recover. Returns the least cost
that a reading will have. -/
def condense : ParseM (Option Nat) := do
  let least ← compareAll (2 * (← ask Stack.size) + 1) 0 none
  change fun s => { s with readings := s.readings.take maxReadings }
  let size ← ask Stack.size
  resume t text size (size + 1) 0 false least

/-! ## The whole text -/

/-- Takes a reading forward until it is farther than all readings before, in at most `fuel` steps.
Returns the farthest position. -/
def advanceBeyond (r : Nat) : Nat → Nat → ParseM Nat
  | 0, farthest => return farthest
  | fuel + 1, farthest => do
    if !(← ask fun s => r < s.size && (s.reading r).isActive) then return farthest
    advance t text r
    let position ← ask fun s => if r < s.size then some (s.top r).position else none
    match position with
    | none => return farthest
    | some p =>
      if farthest < p || (0 < r && p == farthest) then return p
      advanceBeyond r fuel farthest

/-- Takes all readings from the `r`-th one on forward, in at most `fuel` steps. -/
def advanceAll : Nat → Nat → Nat → ParseM Nat
  | 0, _, farthest => return farthest
  | fuel + 1, r, farthest => do
    if (← ask Stack.size) ≤ r then return farthest
    let farthest ← advanceBeyond t text r (stepBound text) farthest
    advanceAll fuel (r + 1) farthest

/-- Runs a parse to its end, in at most `fuel` rounds. -/
def run : Nat → Nat → ParseM Unit
  | 0, _ => return ()
  | fuel + 1, farthest => do
    let farthest ← advanceAll t text (stepBound text) 0 farthest
    let isEmpty := (← ask Stack.size) == 0
    let least ← condense t text
    let isDecided := (← get).finished.any fun tree => least.all (tree.cost < ·)
    if isDecided || isEmpty then return ()
    run fuel farthest

end Parse

/-- The tree of a text. -/
def Table.parse {κ ρ : Type} (t : Table κ ρ) (text : SourceText) : Option Subtree :=
  let start : Parse := { stack := .atStart startState }
  ((Parse.run t text (Parse.stepBound text) 0).run start).2.finished

end SuiteLint.Parsing
