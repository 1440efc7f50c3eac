import SuiteLint.Parsing.Automaton
import SuiteLint.Parsing.TokenOverlap

/-!
# Vocabularies

What is known of the tokens of a grammar once its automaton is there: how they interfere, which of
them are expected together in some state, and which of them are keywords. A keyword is a token all
of whose texts are words; a scanner reads a word first and then asks whether it is a keyword.
-/

namespace SuiteLint.Parsing

/-- The tokens of a grammar and the relations between them. -/
structure Vocabulary where
  /-- The number of tokens. -/
  size : Nat
  word : Nat
  automaton : TokenAutomaton
  overlaps : TokenOverlaps
  /-- For each token, the tokens that are expected together with it in some state. -/
  companions : Array IndexSet
  keywords : IndexSet
deriving Inhabited

/-- A relation between tokens as the set of second tokens for each first one. -/
def relate (size : Nat) (holds : Nat → Nat → Bool) : Array IndexSet :=
  (Array.range size).map fun i => .ofList ((List.range size).filter (holds i))

namespace Vocabulary

variable {κ ρ : Type}

/-! ## What may follow a token -/

/-- Notes that what follows a step may follow the last tokens of the step. -/
def noteNeighbours (firsts lasts : Array IndexSet) (follow : Array IndexSet) :
    List (Step κ ρ) → Array IndexSet
  | s :: t :: rest =>
    let behind := PhraseGrammar.tokensIn firsts t.symbol
    let follow := (PhraseGrammar.tokensIn lasts s.symbol).toList.foldl
      (fun follow i => follow.modify i (·.union behind)) follow
    noteNeighbours firsts lasts follow (t :: rest)
  | _ => follow

/-- For each token, the tokens that may follow it. -/
def followingTokens (g : PhraseGrammar κ ρ) : Array IndexSet :=
  let size := g.lexemes.size
  let firsts := g.firstTokens
  let lasts := g.lastTokens
  let follow := g.phrases.foldl
    (fun follow p =>
      p.productions.foldl (fun follow q => noteNeighbours firsts lasts follow q.steps) follow)
    (Array.replicate size ∅)
  let extras := IndexSet.ofList g.extras
  follow.mapIdx fun i f => if extras.contains i then .below size else f.union extras

/-- For each token, the letters that may follow it. -/
def followingLetters (g : PhraseGrammar κ ρ) (a : TokenAutomaton) : Array IndexSet :=
  let starts := a.starts.map fun p =>
    (a.moves (a.settleAll [p])).foldl (fun found m => found.union m.letters) ∅
  (followingTokens g).map fun follow =>
    follow.toList.foldl (fun found t => found.union (starts.getD t ∅)) ∅

/-! ## Tokens of one state -/

/-- The sets of tokens that are expected in some state, each one once. -/
def expectedTogether (size : Nat) (a : Automaton) : List IndexSet :=
  let sets := a.states.foldl
    (fun (sets : Std.HashMap IndexSet Unit) s =>
      sets.insertIfNew (s.tokens.inter (.below size)) ())
    {}
  sets.keys

/-- For each token, the tokens of all sets that it is in. -/
def companionsIn (size : Nat) (sets : List IndexSet) : Array IndexSet :=
  (Array.range size).map fun i =>
    sets.foldl (fun found s => if s.contains i then found.union s else found) ∅

/-! ## Keywords -/

/-- The tokens all of whose texts are words, and which are preferred to the word. -/
def wordLike (size word : Nat) (o : TokenOverlaps) : List Nat :=
  (List.range size).filter fun i => (o.get i word).sameText && !(o.get i word).differentText

/-- The tokens that can be read as words at first: no two of them share a text, and where a word is
not expected, a word would interfere with other tokens in the same way. -/
def keywordsOf (size word : Nat) (o : TokenOverlaps) (sets : List IndexSet) : IndexSet :=
  let candidates := wordLike size word o
  let others := (IndexSet.below size).diff (.ofList candidates)
  let companions := companionsIn size (sets.filter fun s => !s.contains word)
  .ofList <| candidates.filter fun t =>
    !candidates.any (fun u => u != t && (o.get u t).sameText)
      && ((companions.getD t ∅).inter others).toList.all fun u =>
        !others.contains u || o.get t u == o.get word u

/-- The vocabulary of a grammar. -/
def ofGrammar (alphabet : Alphabet) (blanks : IndexSet) (g : PhraseGrammar κ ρ) (a : Automaton) :
    Vocabulary :=
  let size := g.lexemes.size
  let tokens := TokenAutomaton.ofTokens alphabet blanks (g.lexemes.toList.map Lexeme.token)
  let letters := followingLetters g tokens
  let overlaps := TokenOverlaps.ofAutomaton tokens fun t => letters.getD t ∅
  let sets := expectedTogether size a
  { size
    word := g.word
    automaton := tokens
    overlaps
    companions := companionsIn size sets
    keywords := keywordsOf size g.word overlaps sets }

variable (v : Vocabulary)

/-- Whether two tokens are expected together in some state. -/
def areCompanions (i j : Nat) : Bool := (v.companions.getD i ∅).contains j

/-- Whether two tokens are the word and a keyword. -/
def areWordAndKeyword (i j : Nat) : Bool :=
  (i == v.word && v.keywords.contains j) || (j == v.word && v.keywords.contains i)

/-- For each token, the tokens that it may be read in the place of, keywords read as words apart. -/
def clashes : Array IndexSet :=
  relate v.size fun i j => (v.overlaps.get i j).conflicts && !v.areWordAndKeyword i j

/-- For each token, the tokens with which it must not be looked for where it is not expected. -/
def separations : Array IndexSet :=
  relate v.size fun i j =>
    (v.overlaps.get i j).conflicts || (v.overlaps.get i j).cutsShort
      || (!v.areCompanions i j && ((v.overlaps.get j i).touches || (v.overlaps.get i j).touches))

/-- Whether a token hides another one for which it was not meant. -/
def hides (i j : Nat) : Bool :=
  let o := v.overlaps.get i j
  i != j && !v.areCompanions i j && (o.goesOnValidly || o.meetsBlanks)
    && !(v.overlaps.get j i).meetsBlanks

/-- The tokens that hide no others. -/
def harmless : IndexSet :=
  .ofList <| (List.range v.size).filter fun i => !(List.range v.size).any (v.hides i)

/-- The tokens to look for while a parser recovers: all but those that may be read in the place of a
harmless one. -/
def recoverable : IndexSet :=
  let harmless := v.harmless
  .ofList <| (List.range v.size).filter fun i =>
    harmless.contains i || v.keywords.contains i || i == v.word
      || !harmless.toList.any fun t =>
        !v.areCompanions i t && (v.overlaps.get i t).conflicts

end Vocabulary

end SuiteLint.Parsing
