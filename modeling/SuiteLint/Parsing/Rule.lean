import SuiteLint.Parsing.Pattern

/-!
# Grammars

A grammar defines the kinds of nodes that a syntax tree is made of, each by a rule over tokens and
kinds. Rules carry what settles ambiguities: ranks and sides decide while a table is made, weights
decide between finished trees.
-/

namespace SuiteLint.Parsing

/-- Gives the members of a type different numbers. -/
class Numbered (α : Type) where
  number : α → Nat

/-- On which side a chain of operators of one rank is grouped. -/
inductive Side where
  | left
  | right
deriving Repr, DecidableEq, Inhabited

/-- A rule over atoms `α`; `κ` are the kinds of nodes and `ρ` the roles of children. -/
inductive Rule (α κ ρ : Type) where
  | nothing
  | atom (a : α)
  /-- Rules one behind the other. -/
  | sequence (parts : List (Rule α κ ρ))
  /-- Any one of several rules. -/
  | oneOf (choices : List (Rule α κ ρ))
  /-- A rule once or more often. -/
  | many (r : Rule α κ ρ)
  /-- A rule with a rank and perhaps a side. -/
  | ranked (rank : Int) (side : Option Side) (r : Rule α κ ρ)
  /-- A rule whose trees have a weight. -/
  | weighted (weight : Int) (r : Rule α κ ρ)
  /-- A rule whose nodes are shown as another kind. -/
  | shownAs (kind : κ) (r : Rule α κ ρ)
  /-- A rule whose nodes play a role in the node around them. -/
  | playing (role : ρ) (r : Rule α κ ρ)
deriving Repr, BEq, Inhabited

/-- What a written rule is made of. -/
inductive Atom (κ : Type) where
  /-- A token that is spelled out and has no kind of its own. -/
  | literal (text : String)
  /-- Any other token without a kind of its own. -/
  | token (t : Token)
  | kind (k : κ)
deriving Repr, BEq, Inhabited

/-- How the nodes of a kind appear in a tree. -/
inductive Status where
  | shown
  /-- The children stand in the place of the node. -/
  | hidden
  /-- As `hidden`; the kind stands for any one of several others. -/
  | umbrella
  /-- The rule is put in the place of the kind before anything else is done. -/
  | spliced
deriving Repr, DecidableEq, Inhabited

/-- The definition of a kind. -/
inductive Definition (κ ρ : Type) where
  /-- A kind that is a token. -/
  | lexeme (kind : κ) (token : Token)
  | rule (kind : κ) (status : Status) (rule : Rule (Atom κ) κ ρ)
deriving Repr, Inhabited

/-- A grammar. -/
structure Grammar (κ ρ : Type) where
  alphabet : Alphabet
  /-- The definitions; the first one is that of a whole text. -/
  definitions : List (Definition κ ρ)
  /-- The letters that may stand before any token that is not immediate. -/
  blanks : IndexSet
  /-- The tokens that may stand between any two others. -/
  extras : List κ
  /-- The token whose texts are words: a keyword is read as a word where it is not expected. -/
  word : κ

namespace Rule

variable {α β κ ρ : Type}

/-- A rule or nothing. -/
def maybe (r : Rule α κ ρ) : Rule α κ ρ := oneOf [r, nothing]

/-- A rule any number of times. -/
def repeated (r : Rule α κ ρ) : Rule α κ ρ := maybe (many r)

/-- A rule once or more often, with a separator between each two. -/
def separated (r separator : Rule α κ ρ) : Rule α κ ρ :=
  sequence [r, repeated (sequence [separator, r])]

instance : Coe String (Rule (Atom κ) κ ρ) := ⟨fun s => atom (.literal s)⟩

instance : Coe κ (Rule (Atom κ) κ ρ) := ⟨fun k => atom (.kind k)⟩

mutual

/-- The atoms of a rule from left to right. -/
def atoms : Rule α κ ρ → List α
  | nothing => []
  | atom a => [a]
  | sequence parts => atomsOfAll parts
  | oneOf choices => atomsOfAll choices
  | many r => r.atoms
  | ranked _ _ r => r.atoms
  | weighted _ r => r.atoms
  | shownAs _ r => r.atoms
  | playing _ r => r.atoms

/-- The atoms of rules from left to right. -/
def atomsOfAll : List (Rule α κ ρ) → List α
  | [] => []
  | r :: rest => r.atoms ++ atomsOfAll rest

end

mutual

/-- A rule with other atoms in the places of its own. -/
def map (f : α → β) : Rule α κ ρ → Rule β κ ρ
  | nothing => nothing
  | atom a => atom (f a)
  | sequence parts => sequence (mapAll f parts)
  | oneOf choices => oneOf (mapAll f choices)
  | many r => many (r.map f)
  | ranked rank side r => ranked rank side (r.map f)
  | weighted weight r => weighted weight (r.map f)
  | shownAs kind r => shownAs kind (r.map f)
  | playing role r => playing role (r.map f)

/-- Rules with other atoms in the places of their own. -/
def mapAll (f : α → β) : List (Rule α κ ρ) → List (Rule β κ ρ)
  | [] => []
  | r :: rest => r.map f :: mapAll f rest

end

end Rule

end SuiteLint.Parsing
