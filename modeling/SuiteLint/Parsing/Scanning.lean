import SuiteLint.Parsing.Subtree

/-!
# Scanning

Reads the next token at a position in a state of the parser. Where no token that the state expects
can be read, any other token is looked for, and where there is none either, characters are passed
over as a fault.
-/

namespace SuiteLint.Parsing

/-- A token that was found. -/
structure Found where
  token : Nat
  start : Nat
  stop : Nat
deriving Repr, Inhabited

/-- How a scanner ended: the longest token, where the token would start, and the position that was
reached. -/
structure ScanOutcome where
  found : Option Found
  start : Nat
  reached : Nat
deriving Repr, Inhabited

namespace Table

variable {κ ρ : Type} (t : Table κ ρ) (text : SourceText)

/-- Runs the scanner from a state and a position, in at most `fuel` steps. -/
def scanFrom : Nat → ScanState → Nat → Nat → Option Found → ScanOutcome
  | 0, _, start, position, found => { found, start, reached := position }
  | fuel + 1, s, start, position, found =>
    let found :=
      match s.complete with
      | some token => some { token, start, stop := position }
      | none => found
    match text.letters[position]? with
    | none =>
      let found :=
        if s.takesEnd then some { token := t.endToken, start, stop := position } else found
      { found, start, reached := position }
    | some letter =>
      match s.moves.find? fun m => m.letters.contains letter with
      | none => { found, start, reached := position }
      | some m =>
        let position := position + 1
        scanFrom fuel (t.scanner.getD m.target default) (if m.isBlank then position else start)
          position found

/-- The character that may stand at the front of a text to mark the order of its bytes. -/
def byteOrderMark : Char := Char.ofNat 0xFEFF

/-- Runs the scanner from a state at a position. A byte order mark at the front is passed over. -/
def scanAt (scanState position : Nat) : ScanOutcome :=
  let position :=
    if position == 0 && text.chars[0]? == some byteOrderMark then 1 else position
  t.scanFrom text (text.size + 1 - position) (t.scanner.getD scanState default) position position
    none

/-- The end of a fault at a position, in at most `fuel` steps: the scanner is tried again and again
until it finds a token or the text ends. -/
def faultEnd : Nat → Nat → Nat → Nat
  | 0, _, stop => stop
  | fuel + 1, reached, stop =>
    if reached == stop && text.size ≤ reached then stop
    else
      let next := if reached == stop then reached + 1 else reached
      let outcome := t.scanAt text (t.modes.getD (t.state recoveryState).mode 0) next
      match outcome.found with
      | some _ => next
      | none => faultEnd fuel outcome.reached next

/-- The token at a position: the one that the state expects, or a keyword in its place. -/
def tokenFound (state position : Nat) (f : Found) : Subtree :=
  let extent := tokenExtent text position f.start f.stop
  let keyword := if f.token == t.word then (t.scanAt text t.keywordMode f.start).found else none
  match keyword with
  | none => t.leaf (.token f.token) extent state false
  | some k =>
    let isExpected := k.stop == f.stop && !(t.actions state k.token).isEmpty
    t.leaf (.token (if isExpected then k.token else f.token)) extent state true

/-- Reads the next token at a position. -/
def scan (state position : Nat) : Subtree :=
  let mode := fun (s : Nat) => t.modes.getD (t.state s).mode 0
  match (t.scanAt text (mode state) position).found with
  | some f => t.tokenFound text state position f
  | none =>
    let outcome := t.scanAt text (mode recoveryState) position
    match outcome.found with
    | some f => t.tokenFound text state position f
    | none =>
      let stop := t.faultEnd text (text.size + 2) outcome.reached outcome.start
      t.leaf .fault (tokenExtent text position outcome.start stop) state false

end Table

end SuiteLint.Parsing
