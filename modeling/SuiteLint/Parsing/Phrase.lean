import SuiteLint.Parsing.Rule

/-!
# Phrases and productions

The form of a grammar that tables are made from: numbered tokens, and numbered phrases with lists of
productions. A repetition becomes a phrase of its own, choices become productions, and spliced kinds
are put in their places.
-/

namespace SuiteLint.Parsing

/-- A symbol of a production. -/
inductive Symbol where
  | token (index : Nat)
  | phrase (index : Nat)
deriving Repr, DecidableEq, Inhabited

/-- A symbol of a production, with all that the rule said about its place. -/
structure Step (κ ρ : Type) where
  symbol : Symbol
  rank : Option Int
  side : Option Side
  /-- The kind that the node is shown as, if not its own. -/
  shownKind : Option κ
  role : Option ρ
deriving Repr, BEq, Inhabited

/-- One way to build a phrase. -/
structure Production (κ ρ : Type) where
  steps : List (Step κ ρ)
  weight : Int
deriving Repr, BEq, Inhabited

/-- What a node is called. -/
inductive Label (κ : Type) where
  | kind (k : κ)
  /-- A token without a kind, by its text. -/
  | text (s : String)
  /-- Nothing: the node does not appear in trees. -/
  | concealed
deriving Repr, BEq, Inhabited

/-- A token and what its nodes are called. -/
structure Lexeme (κ : Type) where
  token : Token
  label : Label κ
deriving Repr, Inhabited

/-- A phrase and its productions. -/
structure Phrase (κ ρ : Type) where
  /-- The kind of the phrase; repetitions have none. -/
  kind : Option κ
  status : Status
  productions : List (Production κ ρ)
deriving Repr, Inhabited

namespace Phrase

variable {κ ρ : Type}

/-- Whether a phrase is a repetition. -/
def isRepetition (p : Phrase κ ρ) : Bool := p.kind.isNone

/-- Whether the nodes of a phrase appear in trees. -/
def isShown (p : Phrase κ ρ) : Bool := p.status == .shown

/-- What the nodes of a phrase are called. -/
def label (p : Phrase κ ρ) : Label κ :=
  match p.kind, p.status with
  | some k, .shown => .kind k
  | _, _ => .concealed

end Phrase

/-- A grammar as phrases. -/
structure PhraseGrammar (κ ρ : Type) where
  lexemes : Array (Lexeme κ)
  /-- The phrases; the first one is that of a whole text. -/
  phrases : Array (Phrase κ ρ)
  /-- The tokens that may stand anywhere. -/
  extras : List Nat
  word : Nat
deriving Inhabited

/-! ## Productions of a rule -/

namespace Rule

variable {κ ρ : Type}

mutual

/-- The rules without choices that a rule stands for. -/
def alternatives : Rule Symbol κ ρ → List (Rule Symbol κ ρ)
  | nothing => [nothing]
  | atom s => [atom s]
  | sequence parts => (alternativesInRow parts).map sequence
  | oneOf choices => alternativesOfAll choices
  | many r => [many r]
  | ranked rank side r => r.alternatives.map (ranked rank side)
  | weighted weight r => r.alternatives.map (weighted weight)
  | shownAs kind r => r.alternatives.map (shownAs kind)
  | playing role r => r.alternatives.map (playing role)

/-- The rows without choices that a row stands for. -/
def alternativesInRow : List (Rule Symbol κ ρ) → List (List (Rule Symbol κ ρ))
  | [] => [[]]
  | r :: rest =>
    let behind := alternativesInRow rest
    r.alternatives.flatMap fun first => behind.map (first :: ·)

/-- The rules without choices that any one of several rules stands for. -/
def alternativesOfAll : List (Rule Symbol κ ρ) → List (Rule Symbol κ ρ)
  | [] => []
  | r :: rest => r.alternatives ++ alternativesOfAll rest

end

/-- What the rules around a place say about it. -/
structure Surroundings (κ ρ : Type) where
  rank : Option Int := none
  side : Option Side := none
  shownKind : Option κ := none
  role : Option ρ := none

/-- Changes the last element of a list. -/
def modifyLast {α : Type} (f : α → α) : List α → List α
  | [] => []
  | [a] => [f a]
  | a :: rest => a :: modifyLast f rest

mutual

/-- The steps of a rule without choices. The rank behind the last step of a part is that of the
rules around the part, unless the part ends the production. -/
def steps (around : Surroundings κ ρ) (atEnd : Bool) : Rule Symbol κ ρ → List (Step κ ρ)
  | nothing => []
  | atom symbol =>
    [{ symbol, rank := around.rank, side := around.side, shownKind := around.shownKind
       role := around.role }]
  | sequence parts => stepsInRow around atEnd parts
  | oneOf _ => []
  | many _ => []
  | ranked rank side r =>
    let inner := r.steps { around with rank := some rank, side := side.or around.side } atEnd
    if atEnd then inner
    else
      modifyLast
        (fun s =>
          { s with
            rank := around.rank
            side := if side.isSome then around.side else s.side })
        inner
  | weighted _ r => r.steps around atEnd
  | shownAs kind r => r.steps { around with shownKind := some kind } atEnd
  | playing role r => r.steps { around with role := some role } atEnd

/-- The steps of a row without choices. -/
def stepsInRow (around : Surroundings κ ρ) (atEnd : Bool) :
    List (Rule Symbol κ ρ) → List (Step κ ρ)
  | [] => []
  | [r] => r.steps around atEnd
  | r :: rest => r.steps around false ++ stepsInRow around atEnd rest

end

/-- Of two weights the one that is farther from zero. -/
def heavier (a b : Int) : Int := if a.natAbs < b.natAbs then b else a

mutual

/-- The weight of the trees of a rule without choices. -/
def weight : Rule Symbol κ ρ → Int
  | weighted w r => heavier w r.weight
  | ranked _ _ r => r.weight
  | shownAs _ r => r.weight
  | playing _ r => r.weight
  | sequence parts => weightOfRow parts
  | nothing => 0
  | atom _ => 0
  | oneOf _ => 0
  | many _ => 0

/-- The weight of the trees of a row without choices. -/
def weightOfRow : List (Rule Symbol κ ρ) → Int
  | [] => 0
  | r :: rest => heavier r.weight (weightOfRow rest)

end

/-- A list without repeated elements; the first one of equal elements stays. -/
def distinct {α : Type} [BEq α] (xs : List α) : List α :=
  xs.foldl (fun seen x => if seen.contains x then seen else seen ++ [x]) []

/-- The productions of a rule. -/
def productions [BEq κ] [BEq ρ] (r : Rule Symbol κ ρ) : List (Production κ ρ) :=
  distinct <| r.alternatives.map fun a => { steps := a.steps {} true, weight := a.weight }

mutual

/-- Replaces the repetitions in a rule by phrases, numbered from `base` on. The state holds what is
repeated. -/
def withoutRepetitions [BEq κ] [BEq ρ] (base : Nat) :
    Rule Symbol κ ρ → StateM (Array (Rule Symbol κ ρ)) (Rule Symbol κ ρ)
  | nothing => return nothing
  | atom s => return atom s
  | sequence parts => return sequence (← allWithoutRepetitions base parts)
  | oneOf choices => return oneOf (← allWithoutRepetitions base choices)
  | many r => do
    let inner ← r.withoutRepetitions base
    let known ← get
    match known.findIdx? (· == inner) with
    | some i => return atom (.phrase (base + i))
    | none =>
      set (known.push inner)
      return atom (.phrase (base + known.size))
  | ranked rank side r => return ranked rank side (← r.withoutRepetitions base)
  | weighted weight r => return weighted weight (← r.withoutRepetitions base)
  | shownAs kind r => return shownAs kind (← r.withoutRepetitions base)
  | playing role r => return playing role (← r.withoutRepetitions base)

/-- Replaces the repetitions in rules by phrases. -/
def allWithoutRepetitions [BEq κ] [BEq ρ] (base : Nat) :
    List (Rule Symbol κ ρ) → StateM (Array (Rule Symbol κ ρ)) (List (Rule Symbol κ ρ))
  | [] => return []
  | r :: rest => do
    let r ← r.withoutRepetitions base
    return r :: (← allWithoutRepetitions base rest)

end

end Rule

/-! ## Splicing -/

namespace Production

variable {κ ρ : Type}

/-- The steps of a production in the place of a step. -/
def inPlaceOf (s : Step κ ρ) (p : Production κ ρ) : List (Step κ ρ) :=
  Rule.modifyLast (fun t => { t with rank := t.rank.or s.rank, side := t.side.or s.side }) <|
    p.steps.map fun t =>
      { t with shownKind := s.shownKind.or t.shownKind, role := s.role.or t.role }

/-- The productions that come about by putting productions in the places of spliced phrases, which
`spliced` gives. -/
def splice (spliced : Symbol → Option (List (Production κ ρ))) (weight : Int) :
    List (Step κ ρ) → List (Production κ ρ)
  | [] => [{ steps := [], weight }]
  | s :: rest =>
    match spliced s.symbol with
    | none => (splice spliced weight rest).map fun p => { p with steps := s :: p.steps }
    | some productions =>
      productions.flatMap fun q =>
        (splice spliced (Rule.heavier weight q.weight) rest).map fun p =>
          { p with steps := q.inPlaceOf s ++ p.steps }

end Production

/-! ## From rules to phrases -/

namespace Grammar

variable {κ ρ : Type} [BEq κ] [BEq ρ]

/-- The tokens of a definition from left to right. -/
def lexemesOf : Definition κ ρ → List (Lexeme κ)
  | .lexeme kind token => [{ token, label := .kind kind }]
  | .rule _ _ r =>
    r.atoms.filterMap fun
      | .literal s => some { token := .ofText s, label := .text s }
      | .token token => some { token, label := .concealed }
      | .kind _ => none

/-- The tokens of a grammar, each one once. -/
def lexemes (g : Grammar κ ρ) : Array (Lexeme κ) :=
  (g.definitions.flatMap lexemesOf).foldl
    (fun known l => if known.any (·.token == l.token) then known else known.push l) #[]

/-- The kinds that are no tokens, with their rules. -/
def ruled (g : Grammar κ ρ) : List (κ × Status × Rule (Atom κ) κ ρ) :=
  g.definitions.filterMap fun
    | .lexeme _ _ => none
    | .rule kind status r => some (kind, status, r)

/-- The symbol of an atom. -/
def symbolOf (g : Grammar κ ρ) (lexemes : Array (Lexeme κ)) : Atom κ → Symbol
  | .literal s => .token ((lexemes.findIdx? (·.token == .ofText s)).getD 0)
  | .token t => .token ((lexemes.findIdx? (·.token == t)).getD 0)
  | .kind k =>
    match lexemes.findIdx? (·.label == .kind k) with
    | some i => .token i
    | none => .phrase ((g.ruled.findIdx? (·.1 == k)).getD 0)

/-- The number of the token of a kind. -/
def tokenOf (lexemes : Array (Lexeme κ)) (k : κ) : Nat :=
  (lexemes.findIdx? (·.label == .kind k)).getD 0

/-- The phrase of a repetition: two of its kind, or what is repeated. -/
def repetition (index : Nat) (repeated : Rule Symbol κ ρ) : Phrase κ ρ :=
  { kind := none
    status := .hidden
    productions :=
      let two : Rule Symbol κ ρ := .sequence [.atom (.phrase index), .atom (.phrase index)]
      (Rule.oneOf [two, repeated]).productions }

/-- Puts the spliced phrases in their places. -/
def spliceAll (phrases : Array (Phrase κ ρ)) : Array (Phrase κ ρ) :=
  let spliced : Symbol → Option (List (Production κ ρ))
    | .token _ => none
    | .phrase i =>
      match phrases[i]? with
      | some p => if p.status == .spliced then some p.productions else none
      | none => none
  phrases.map fun p =>
    { p with
      productions := Rule.distinct <|
        p.productions.flatMap fun q => Production.splice spliced q.weight q.steps }

/-- The phrases of a grammar. -/
def toPhrases (g : Grammar κ ρ) : PhraseGrammar κ ρ :=
  let lexemes := g.lexemes
  let ruled := g.ruled
  let rules := ruled.map fun r => r.2.2.map (g.symbolOf lexemes)
  let base := rules.length
  let (rules, repeated) := (Rule.allWithoutRepetitions base rules).run #[]
  let own := (ruled.zip rules).map fun ((kind, status, _), r) =>
    { kind := some kind, status, productions := r.productions : Phrase κ ρ }
  let repetitions := repeated.mapIdx fun i r => repetition (base + i) r
  { lexemes
    phrases := spliceAll (own.toArray ++ repetitions)
    extras := g.extras.map (tokenOf lexemes)
    word := tokenOf lexemes g.word }

end Grammar

end SuiteLint.Parsing
