import SuiteLint.Parsing.TokenAutomaton

/-!
# How tokens get into each other's way

Two tokens that are expected at once may match the same text, or one of them may match the beginning
of the other. `Overlap` says in which of these ways a token interferes with another one. It decides
which states of a parser may share a scanner, and which states may be merged at all.
-/

namespace SuiteLint.Parsing

/-- How a token interferes with another one. -/
structure Overlap where
  /-- It is preferred although the other one could go on. -/
  cutsShort : Bool := false
  /-- It goes on where the other one is complete. -/
  goesOn : Bool := false
  /-- It goes on with a letter that may also follow the other one. -/
  goesOnValidly : Bool := false
  /-- It is complete where blanks may still come. -/
  meetsBlanks : Bool := false
  /-- It is preferred where both are complete. -/
  sameText : Bool := false
  /-- It matches a text that the other one does not match. -/
  differentText : Bool := false
deriving Repr, DecidableEq, Inhabited

namespace Overlap

/-- Whether the token may be read in the place of the other one. -/
def conflicts (o : Overlap) : Bool := o.goesOnValidly || o.meetsBlanks || o.sameText

/-- Whether the two tokens touch each other in any way. -/
def touches (o : Overlap) : Bool := o.meetsBlanks || o.cutsShort || o.sameText || o.goesOn

end Overlap

/-- What two tokens do to each other: the first one to the second one, and the other way round. -/
structure OverlapPair where
  first : Overlap := {}
  second : Overlap := {}
deriving Repr, Inhabited

namespace OverlapPair

/-- Changes what one of the two tokens does: the first one if `ofFirst`. -/
def note (ofFirst : Bool) (f : Overlap → Overlap) (p : OverlapPair) : OverlapPair :=
  if ofFirst then { p with first := f p.first } else { p with second := f p.second }

variable (a : TokenAutomaton) (i j : Nat)

/-- Takes the complete tokens at a point into account: the pair so far, and the one to read. -/
def noteCompletions (takesBlanks : Bool) (p : OverlapPair) :
    List (Nat × Int) → Option (Nat × Int) → OverlapPair × Option (Nat × Int)
  | [], best => (p, best)
  | c :: rest, best =>
    let p := if takesBlanks then p.note (c.1 == i) ({ · with meetsBlanks := true }) else p
    match best with
    | none => noteCompletions takesBlanks p rest (some c)
    | some b =>
      if c.1 == b.1 then noteCompletions takesBlanks p rest best
      else
        let preferred := if a.prefersToken b c then b else c
        noteCompletions takesBlanks (p.note (preferred.1 == i) ({ · with sameText := true })) rest
          (some preferred)

/-- Takes a way to go on from a complete token into account. -/
def noteMove (following : Nat → IndexSet) (takesBlanks : Bool) (complete : Nat × Int)
    (p : OverlapPair) (m : TokenAutomaton.Move) : OverlapPair :=
  let goers := a.tokensAt m.targets
  if goers.contains complete.1 then p
  else
    match goers.getLast? with
    | none => p
    | some goer =>
      if a.goesOn m complete takesBlanks then
        let valid := m.letters.meets (following (if goer == i then j else i))
        p.note (goer == i) fun o =>
          { o with goesOn := true, goesOnValidly := o.goesOnValidly || valid }
      else p.note (complete.1 == i) ({ · with cutsShort := true })

/-- Follows both tokens along all texts that both may go on with, in at most `fuel` steps. -/
def explore (following : Nat → IndexSet) :
    Nat → List (List Nat) → List (List Nat) → OverlapPair → OverlapPair
  | 0, _, _, p => p
  | _, [], _, p => p
  | fuel + 1, targets :: waiting, seen, p =>
    match a.tokensAt targets with
    | [only] =>
      explore following fuel waiting seen (p.note (only == i) ({ · with differentText := true }))
    | _ =>
      let settled := a.settleAll targets
      let takesBlanks := a.takesBlanks settled
      let (p, complete) := noteCompletions a i takesBlanks p (a.completions settled) none
      let moves := a.moves settled
      let p :=
        match complete with
        | none => p
        | some c => moves.foldl (noteMove a i j following takesBlanks c) p
      let fresh := Rule.distinct ((moves.map (·.targets)).filter fun t => !seen.contains t)
      explore following fuel (fresh ++ waiting) (fresh ++ seen) p

end OverlapPair

/-- How the tokens of a grammar interfere with one another. -/
structure TokenOverlaps where
  size : Nat
  table : Array Overlap
deriving Inhabited

namespace TokenOverlaps

/-- What a token does to another one. -/
def get (o : TokenOverlaps) (i j : Nat) : Overlap := o.table.getD (i * o.size + j) {}

/-- A bound on the points at which two tokens are looked at. -/
def exploreBound : Nat := 100000

/-- The interference of the tokens of an automaton. `following` gives the letters that may come
behind a token. -/
def ofAutomaton (a : TokenAutomaton) (following : Nat → IndexSet) : TokenOverlaps :=
  let size := a.starts.size
  let start := fun i => a.starts.getD i 0
  let pairs := (List.range size).flatMap fun i => (List.range i).map fun j => (i, j)
  let table := pairs.foldl
    (fun table (i, j) =>
      let p := OverlapPair.explore a i j following exploreBound
        [mergeSorted [start i] [start j]] [] {}
      (table.setIfInBounds (i * size + j) p.first).setIfInBounds (j * size + i) p.second)
    (Array.replicate (size * size) {})
  { size, table }

end TokenOverlaps

end SuiteLint.Parsing
