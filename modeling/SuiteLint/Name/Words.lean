import SuiteLint.Text.CharClass

/-!
# The words of a name

A name is cut into words at every character that is neither letter nor number, and before every
capital letter that starts a word: the character before it is no capital, or a small letter
follows it. A run of capitals in front of a small letter therefore gives its last letter to the
next word, so `parseXMLFile` has the words `parse`, `xml` and `file`. Numbers stay with the word
that they follow.
-/

namespace SuiteLint.Name

open Text

/-- Whether a capital letter `c` between `prev` and `next` starts a word. -/
def startsWord (prev c : Char) (next : Option Char) : Bool :=
  isUppercase c && (!isUppercase prev || next.any isLowercase)

/-- Cuts the characters behind `prev`, the letter or number of the current word if there is one. The
first piece continues the current word; pieces may be empty. -/
def cut (prev : Option Char) : List Char → List (List Char)
  | [] => [[]]
  | c :: rest =>
    if isAlphanumeric c then
      let (piece, pieces) :=
        match cut (some c) rest with
        | piece :: pieces => (c :: piece, pieces)
        | [] => ([c], [])
      if prev.any fun p => startsWord p c rest.head? then [] :: piece :: pieces
      else piece :: pieces
    else [] :: cut none rest

/-- The words of a name as they are written. -/
def rawWords (cs : List Char) : List (List Char) :=
  (cut none cs).filter fun piece => !piece.isEmpty

/-- The words of a name in lower case. -/
def words (name : String) : List String :=
  (rawWords name.toList).map fun w => String.ofList (w.flatMap lower)

end SuiteLint.Name
