import SuiteLint.Text.CharClass

/-!
# Third person present

A name reads as third person present if its first word ends in `s`. The check works on the raw
characters: numbers are passed over, and the first capital letter ends the word.
-/

namespace SuiteLint.Name

open Text

/-- The check on the rest of a name, where `prev` is the last character that is not a number. -/
def endsInS (prev : Option Char) : List Char → Bool
  | [] => prev == some 's'
  | c :: rest =>
    if isUppercase c then prev == some 's'
    else endsInS (if isNumeric c then prev else some c) rest

/-- Whether the first word of a name ends in `s`. -/
def isPresentTense (name : String) : Bool := endsInS none name.toList

end SuiteLint.Name
