import SuiteLint.Parsing.Pattern
import SuiteLint.Text.Identifier

/-!
# Letters

The tokens of the language tell all characters of ASCII apart; of the others, those that may start a
name, those that may stand inside one, and the rest. The character with code zero is in no token.
-/

namespace SuiteLint.Java.Letters

open SuiteLint.Parsing (IndexSet)

/-- The letter of a character above ASCII that may start a name. -/
def nameStart : Nat := 128

/-- The letter of a character above ASCII that may only stand inside a name. -/
def nameContinue : Nat := 129

/-- The letter of any other character above ASCII. -/
def other : Nat := 130

/-- The number of letters. -/
def count : Nat := 131

/-- The letter of a character. -/
def ofChar (c : Char) : Nat :=
  if c.toNat == 0 then count
  else if Text.isAscii c then c.toNat
  else if Text.isNameStart c then nameStart
  else if Text.isNameContinue c then nameContinue
  else other

/-- The letters of the language. -/
def alphabet : Parsing.Alphabet := { size := count, letter := ofChar }

/-- The letters of a text. -/
def among (s : String) : IndexSet := .ofList (s.toList.map ofChar)

/-- The letters of the ASCII characters between two of them. -/
def range (first last : Char) : IndexSet :=
  (IndexSet.below (last.toNat + 1)).diff (.below first.toNat)

/-- All letters but those of a set. -/
def except (s : IndexSet) : IndexSet := (IndexSet.below count).diff s

/-- Blanks and line ends. -/
def blanks : IndexSet := (range '\t' '\r').insert ' '.toNat

def digits : IndexSet := range '0' '9'

def octalDigits : IndexSet := range '0' '7'

def hexDigits : IndexSet := (digits.union (range 'a' 'f')).union (range 'A' 'F')

/-- The letters that a name may start with. -/
def nameStarts : IndexSet :=
  (((range 'a' 'z').union (range 'A' 'Z')).union (among "_$")).insert nameStart

/-- The letters that may stand inside a name. -/
def nameParts : IndexSet := (nameStarts.union digits).insert nameContinue

end SuiteLint.Java.Letters
