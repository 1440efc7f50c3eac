import SuiteLint.Parsing.IndexSet

/-!
# Token patterns

What a token looks like. Characters that no pattern tells apart share a letter of an alphabet, and a
pattern is a regular expression over letters.
-/

namespace SuiteLint.Parsing

/-- How characters are sorted into finitely many letters. A character whose letter is not below
`size` belongs to no pattern. -/
structure Alphabet where
  size : Nat
  letter : Char → Nat

/-- A regular expression over the letters of an alphabet. -/
inductive Pattern where
  /-- The empty text. -/
  | nothing
  /-- One letter of a set. -/
  | oneLetter (set : IndexSet)
  /-- A text, character by character. -/
  | text (s : String)
  /-- Patterns one behind the other. -/
  | sequence (parts : List Pattern)
  /-- Any one of several patterns. -/
  | oneOf (choices : List Pattern)
  /-- A pattern once or more often. -/
  | many (p : Pattern)
deriving Repr, BEq, Inhabited

namespace Pattern

instance : Coe String Pattern := ⟨text⟩

/-- A pattern or nothing. -/
def maybe (p : Pattern) : Pattern := oneOf [p, nothing]

/-- A pattern any number of times. -/
def repeated (p : Pattern) : Pattern := maybe (many p)

/-- A pattern once or more often, with a separator between each two. -/
def separated (p separator : Pattern) : Pattern :=
  sequence [p, repeated (sequence [separator, p])]

end Pattern

/-- A token of a grammar. -/
structure Token where
  pattern : Pattern
  /-- Whether no blanks may stand in front of the token. -/
  immediate : Bool := false
  /-- Of two tokens with one text, the one of higher rank is read. -/
  rank : Int := 0
deriving Repr, BEq, Inhabited

namespace Token

/-- The token that is spelled out. -/
def ofText (s : String) : Token := { pattern := .text s }

/-- How definite a token is, which decides between tokens of the same rank: a text is more definite
than a pattern, and a token without blanks in front more than one with them. -/
def definiteness (t : Token) : Nat :=
  (match t.pattern with
    | .text _ => 2
    | _ => 0) + (if t.immediate then 1 else 0)

end Token

end SuiteLint.Parsing
