import SuiteLint.Parsing.Merging

/-!
# Parse tables

All that a parser needs to know of a grammar: what to do in each state for each token, and a scanner
with a mode for each set of tokens that may be looked for together.
-/

namespace SuiteLint.Parsing

/-- A state of a parser. -/
structure ParseState where
  /-- For each token, and behind them for the end of the text, what to do. -/
  actions : Array (List Action)
  /-- For each phrase, the state behind it; the state for recovery if the phrase is not expected. -/
  gotos : Array Nat
  /-- The mode of the scanner. -/
  mode : Nat
  /-- The tokens that would be read in the same way in any other state that expects them. -/
  reusable : IndexSet
deriving Inhabited

/-- A parse table. -/
structure Table (κ ρ : Type) where
  alphabet : Alphabet
  /-- What the nodes of each token are called. -/
  tokenLabels : Array (Label κ)
  /-- What the nodes of each phrase are called. -/
  phraseLabels : Array (Label κ)
  shapes : Array (Shape κ ρ)
  word : Nat
  states : Array ParseState
  scanner : Array ScanState
  /-- For each mode, the state of the scanner to start from. -/
  modes : Array Nat
  /-- The state of the scanner to start from in order to tell keywords from other words. -/
  keywordMode : Nat

namespace Table

variable {κ ρ : Type}

/-- The number of the state for recovery. -/
def recoveryState : Nat := 0

/-- The number of the state for the start. -/
def startState : Nat := 1

/-- The number of tokens, which is also the number of the end of the text. -/
def endToken (t : Table κ ρ) : Nat := t.tokenLabels.size

/-- A state. -/
def state (t : Table κ ρ) (i : Nat) : ParseState := t.states.getD i default

/-- What to do for a token. -/
def actions (t : Table κ ρ) (state token : Nat) : List Action :=
  (t.state state).actions.getD token []

/-- The state behind a phrase. -/
def goto (t : Table κ ρ) (state phrase : Nat) : Nat :=
  (t.state state).gotos.getD phrase recoveryState

/-- The state behind a token; the state for recovery if the token is not taken. -/
def shifted (t : Table κ ρ) (state token : Nat) : Nat :=
  match (t.actions state token).getLast? with
  | some (.shift target _) => target
  | some .shiftExtra => state
  | _ => recoveryState

/-! ## Modes -/

/-- The tokens to look for where some tokens are expected: words in the place of keywords. -/
def soughtTokens (v : Vocabulary) (tokens : IndexSet) : IndexSet :=
  let others := tokens.diff v.keywords
  if tokens.meets v.keywords then others.insert v.word else others

/-- Whether tokens that only the first set has get into the way of the second one. -/
def disturbs (separations : Array IndexSet) (x y : IndexSet) : Bool :=
  (x.diff y).toList.any fun t => (separations.getD t ∅).meets y

/-- The number of the first mode that a set of tokens fits into, and the modes with the set
added. -/
def fitMode (separations : Array IndexSet) (modes : Array IndexSet) (tokens : IndexSet) :
    Nat × Array IndexSet :=
  match modes.findIdx? (fun m => !disturbs separations m tokens && !disturbs separations tokens m)
    with
  | some i => (i, modes.modify i (·.union tokens))
  | none => (modes.size, modes.push tokens)

/-- The modes for the states of an automaton, and the mode of each state. -/
def assignModes (v : Vocabulary) (a : Automaton) : Array IndexSet × Array Nat :=
  let reachable := a.reachable
  let separations := v.separations
  let (modes, assigned, _) := a.states.foldl
    (fun ((modes, assigned, i) : Array IndexSet × Array Nat × Nat) s =>
      if reachable.getD i false then
        let (mode, modes) := fitMode separations modes (soughtTokens v s.tokens)
        (modes, assigned.push mode, i + 1)
      else (modes, assigned.push 0, i + 1))
    (#[], #[], 0)
  (modes, assigned)

/-- A bound on the number of states of a scanner. -/
def scannerBound : Nat := 100000

/-- The places where some tokens start. -/
def startsOf (v : Vocabulary) (tokens : IndexSet) : List Nat :=
  (tokens.inter (.below v.size)).toList.foldl
    (fun found t => mergeSorted [v.automaton.starts.getD t 0] found) []

/-- The scanner for some modes, the states to start from, and the state for keywords. -/
def scannerFor (v : Vocabulary) (modes : Array IndexSet) : Array ScanState × Array Nat × Nat :=
  let (starts, draft) := modes.foldl
    (fun ((starts, draft) : Array Nat × ScannerDraft) m =>
      let (start, draft) := draft.stateFor (startsOf v m, m.contains v.size)
      (starts.push start, draft))
    (#[], {})
  let (keywordMode, draft) := draft.stateFor (startsOf v v.keywords, false)
  ((draft.finish v.automaton scannerBound).states, starts, keywordMode)

/-! ## Tables of grammars -/

/-- The tokens of a state that no other token of the state touches. -/
def untouched (v : Vocabulary) (touching : Array IndexSet) (tokens : IndexSet) : IndexSet :=
  .ofList <| tokens.toList.filter fun t =>
    t == v.size || !(touching.getD t ∅).meets tokens

/-- The table of a grammar. -/
def ofGrammar [Numbered κ] [Numbered ρ] [BEq κ] [BEq ρ] (g : Grammar κ ρ) : Table κ ρ :=
  let phrases := g.toPhrases
  let items := Items.ofGrammar phrases
  let canonical := Automaton.ofGrammar phrases items
  let v := Vocabulary.ofGrammar g.alphabet g.blanks phrases canonical
  let automaton :=
    ((canonical.recovering v.recoverable v.size).merged v.clashes).shortcut phrases
  let (modes, assigned) := assignModes v automaton
  let (scanner, starts, keywordMode) := scannerFor v modes
  let touching := relate v.size fun t i => (v.overlaps.get i t).touches
  { alphabet := g.alphabet
    tokenLabels := phrases.lexemes.map Lexeme.label
    phraseLabels := phrases.phrases.map Phrase.label
    shapes := items.shapes
    word := phrases.word
    states := automaton.states.mapIdx fun i s =>
      { actions := s.actions
        gotos := s.gotos.foldl (fun gotos (p, target) => gotos.setIfInBounds p target)
          (Array.replicate phrases.phrases.size recoveryState)
        mode := assigned.getD i 0
        reusable := if i == recoveryState then ∅ else untouched v touching s.tokens }
    scanner
    modes := starts
    keywordMode }

end Table

end SuiteLint.Parsing
