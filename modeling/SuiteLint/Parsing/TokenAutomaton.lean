import SuiteLint.Parsing.Phrase

/-!
# Automata for tokens

All token patterns of a grammar make one automaton with places and arrows between them. A reader of
tokens is in several places at once. Where a token is complete and a longer one may follow, the
ranks of the two say whether to go on.
-/

namespace SuiteLint.Parsing

/-- What can be done in a place. -/
inductive PlaceAction where
  /-- The token is complete. -/
  | accept (rank : Int)
  /-- Go on over one letter, which may be a blank in front of the token. -/
  | advance (letters : IndexSet) (target : Nat) (isBlank : Bool) (rank : Int)
  /-- Be in two other places at once. -/
  | fork (first second : Nat)
deriving Repr, Inhabited

/-- A place on the way through a token. -/
structure TokenPlace where
  token : Nat
  action : PlaceAction
deriving Repr, Inhabited

/-! ## Building -/

namespace Pattern

variable (alphabet : Alphabet) (token : Nat) (isBlank : Bool) (rank : Int)

/-- Adds a place and returns its number. -/
def addPlace (action : PlaceAction) : StateM (Array TokenPlace) Nat :=
  modifyGet fun places => (places.size, places.push { token, action })

/-- Adds the places of a text in front of the place `next`. -/
def buildText (next : Nat) : List Char → StateM (Array TokenPlace) Nat
  | [] => return next
  | c :: rest => do
    let next ← buildText next rest
    addPlace token (.advance (.singleton (alphabet.letter c)) next isBlank rank)

mutual

/-- Adds the places of a pattern in front of the place `next` and returns where it starts. -/
def build (next : Nat) : Pattern → StateM (Array TokenPlace) Nat
  | nothing => return next
  | oneLetter set => addPlace token (.advance set next isBlank rank)
  | text s => buildText alphabet token isBlank rank next s.toList
  | sequence parts => buildRow next parts
  | oneOf [] => return next
  | oneOf (p :: rest) => do
    let start ← p.build next
    buildChoices next start rest
  | many p => do
    let loop ← addPlace token (.fork next next)
    let start ← p.build loop
    modify fun places => places.setIfInBounds loop { token, action := .fork start next }
    return start

/-- Adds the places of patterns one behind the other. -/
def buildRow (next : Nat) : List Pattern → StateM (Array TokenPlace) Nat
  | [] => return next
  | p :: rest => do
    let next ← buildRow next rest
    p.build next

/-- Adds the places of further choices beside the place `start`. -/
def buildChoices (next start : Nat) : List Pattern → StateM (Array TokenPlace) Nat
  | [] => return start
  | p :: rest => do
    let other ← p.build next
    let start ← addPlace token (.fork start other)
    buildChoices next start rest

end

end Pattern

/-- Adds two sorted lists without repeated elements up to one. -/
def mergeSorted : List Nat → List Nat → List Nat
  | [], ys => ys
  | xs, [] => xs
  | x :: xs, y :: ys =>
    if x < y then x :: mergeSorted xs (y :: ys)
    else if y < x then y :: mergeSorted (x :: xs) ys
    else x :: mergeSorted xs ys
termination_by xs ys => xs.length + ys.length

/-- The places other than forks that one is in at a place, in at most `fuel` steps. -/
def settle (places : Array TokenPlace) : Nat → List Nat → List Nat → List Nat → List Nat
  | 0, _, _, found => found
  | _, [], _, found => found
  | fuel + 1, p :: rest, seen, found =>
    if seen.contains p then settle places fuel rest seen found
    else
      match places[p]?.map TokenPlace.action with
      | some (.fork first second) =>
        settle places fuel (first :: second :: rest) (p :: seen) found
      | _ => settle places fuel rest (p :: seen) (mergeSorted [p] found)

/-- The automaton of the tokens of a grammar. -/
structure TokenAutomaton where
  places : Array TokenPlace
  /-- Where each token starts. -/
  starts : Array Nat
  /-- For each place, the places other than forks that one is in there. -/
  settled : Array (List Nat)
  /-- For each token, how definite it is. -/
  definiteness : Array Nat
deriving Inhabited

namespace TokenAutomaton

/-- Adds a token to the places and starts so far. -/
def addToken (alphabet : Alphabet) (blanks : IndexSet) (so : Array TokenPlace × Array Nat)
    (t : Token) : Array TokenPlace × Array Nat :=
  let index := so.2.size
  let build : StateM (Array TokenPlace) Nat := do
    let last ← Pattern.addPlace index (.accept t.rank)
    let start ← t.pattern.build alphabet index false t.rank last
    if t.immediate then return start
    else (Pattern.repeated (.oneLetter blanks)).build alphabet index true 0 start
  let (start, places) := build.run so.1
  (places, so.2.push start)

/-- The automaton of tokens. -/
def ofTokens (alphabet : Alphabet) (blanks : IndexSet) (tokens : List Token) : TokenAutomaton :=
  let (places, starts) := tokens.foldl (addToken alphabet blanks) (#[], #[])
  { places
    starts
    settled := (Array.range places.size).map fun p =>
      settle places (2 * places.size + 2) [p] [] []
    definiteness := (tokens.map Token.definiteness).toArray }

variable (a : TokenAutomaton)

/-- The places other than forks that one is in at some places. -/
def settleAll (targets : List Nat) : List Nat :=
  targets.foldl (fun found p => mergeSorted (a.settled.getD p []) found) []

/-- The tokens that one is on the way through, each one once. -/
def tokensAt (targets : List Nat) : List Nat :=
  targets.foldl (fun found p => mergeSorted [((a.places[p]?).map TokenPlace.token).getD 0] found) []

/-! ## Going on -/

/-- A way to go on from some places. -/
structure Move where
  letters : IndexSet
  /-- Whether the letter is a blank in front of the token, for all tokens that go on. -/
  isBlank : Bool
  rank : Int
  targets : List Nat
deriving Repr, Inhabited

/-- Adds a way to go on, so that no letter stands in two of them. -/
def addMove (new : Move) : List Move → List Move
  | [] => if new.letters.isEmpty then [] else [new]
  | m :: rest =>
    let common := m.letters.inter new.letters
    if common.isEmpty then m :: addMove new rest
    else
      let both : Move :=
        { letters := common
          isBlank := m.isBlank && new.isBlank
          rank := max m.rank new.rank
          targets := mergeSorted m.targets new.targets }
      let left := m.letters.diff common
      let tail := addMove { new with letters := new.letters.diff common } rest
      if left.isEmpty then both :: tail else both :: { m with letters := left } :: tail

/-- The ways to go on from settled places. -/
def moves (settled : List Nat) : List Move :=
  settled.foldl
    (fun found p =>
      match (a.places[p]?).map TokenPlace.action with
      | some (.advance letters target isBlank rank) =>
        addMove { letters, isBlank, rank, targets := [target] } found
      | _ => found)
    []

/-- Whether blanks may still come at settled places. -/
def takesBlanks (settled : List Nat) : Bool :=
  settled.any fun p =>
    match (a.places[p]?).map TokenPlace.action with
    | some (.advance _ _ isBlank _) => isBlank
    | _ => false

/-- The complete tokens at settled places, with their ranks. -/
def completions (settled : List Nat) : List (Nat × Int) :=
  settled.filterMap fun p =>
    match a.places[p]? with
    | some place =>
      match place.action with
      | .accept rank => some (place.token, rank)
      | _ => none
    | none => none

/-- Whether the first one of two complete tokens is the one to read: the one of higher rank, then
the more definite one, then the earlier one. -/
def prefersToken (x y : Nat × Int) : Bool :=
  if x.2 != y.2 then y.2 < x.2
  else
    let dx := a.definiteness.getD x.1 0
    let dy := a.definiteness.getD y.1 0
    if dx != dy then dy < dx else x.1 < y.1

/-- The complete token to read at settled places. -/
def completion? (settled : List Nat) : Option (Nat × Int) :=
  (a.completions settled).foldl
    (fun best c =>
      match best with
      | none => some c
      | some b => if a.prefersToken b c then best else some c)
    none

/-- Whether to go on although a token is complete. -/
def goesOn (m : Move) (complete : Nat × Int) (takesBlanks : Bool) : Bool :=
  if m.rank < complete.2 then false
  else if m.rank == complete.2 then
    !m.isBlank && !(takesBlanks && !(a.tokensAt m.targets).contains complete.1)
  else true

end TokenAutomaton

/-! ## Reading without going back -/

/-- An arrow of a scanner. -/
structure ScanMove where
  letters : IndexSet
  target : Nat
  isBlank : Bool
deriving Repr, Inhabited

/-- A state of a scanner. -/
structure ScanState where
  /-- The token that is complete here. -/
  complete : Option Nat
  /-- Whether the text may end here. -/
  takesEnd : Bool
  moves : List ScanMove
deriving Repr, Inhabited

/-- A scanner that is being built: what each state stands for, and the states that are finished. -/
structure ScannerDraft where
  known : Array (List Nat × Bool) := #[]
  states : Array ScanState := #[]
deriving Inhabited

namespace ScannerDraft

/-- The number of the state for some places. -/
def stateFor (d : ScannerDraft) (key : List Nat × Bool) : Nat × ScannerDraft :=
  match d.known.findIdx? (· == key) with
  | some i => (i, d)
  | none => (d.known.size, { d with known := d.known.push key })

/-- Adds the arrows of a state. -/
def addMoves (takesEnd : Bool) :
    List TokenAutomaton.Move → ScannerDraft → List ScanMove × ScannerDraft
  | [], d => ([], d)
  | m :: rest, d =>
    let (target, d) := d.stateFor (m.targets, takesEnd && m.isBlank)
    let (moves, d) := addMoves takesEnd rest d
    ({ letters := m.letters, target, isBlank := m.isBlank } :: moves, d)

/-- Finishes the next state. -/
def finishNext (a : TokenAutomaton) (d : ScannerDraft) : ScannerDraft :=
  match d.known[d.states.size]? with
  | none => d
  | some (targets, takesEnd) =>
    let settled := a.settleAll targets
    let complete := a.completion? settled
    let takesBlanks := a.takesBlanks settled
    let usable := (a.moves settled).filter fun m =>
      match complete with
      | none => true
      | some c => a.goesOn m c takesBlanks
    let (moves, d) := addMoves takesEnd usable d
    { d with states := d.states.push { complete := complete.map Prod.fst, takesEnd, moves } }

/-- Finishes all states, in at most `fuel` steps. -/
def finish (a : TokenAutomaton) : Nat → ScannerDraft → ScannerDraft
  | 0, d => d
  | fuel + 1, d => if d.states.size < d.known.size then finish a fuel (d.finishNext a) else d

end ScannerDraft

end SuiteLint.Parsing
