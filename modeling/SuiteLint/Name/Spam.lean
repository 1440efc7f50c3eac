import SuiteLint.Name.Words

/-!
# Repetition in names

A name is spam if one of its words stands twice in a row, or if one character stands four times in a
row, where ASCII capitals and small letters count as the same.
-/

namespace SuiteLint.Name

/-- The least number of equal characters in a row that counts as spam. -/
def spamRun : Nat := 4

/-- Whether two neighbours in a list are equal. -/
def hasEqualNeighbours {α : Type} [BEq α] : List α → Bool
  | a :: b :: rest => a == b || hasEqualNeighbours (b :: rest)
  | _ => false

/-- Whether a run of `spamRun` equal characters is reached, where the characters before end in `run`
times `prev`. -/
def hasLongRun (prev : Option Char) (run : Nat) : List Char → Bool
  | [] => false
  | c :: rest =>
    let run := if prev == some c then run + 1 else 1
    spamRun ≤ run || hasLongRun (some c) run rest

/-- Whether a name repeats a word or a character. -/
def isSpam (name : String) : Bool :=
  hasEqualNeighbours (words name) || hasLongRun none 0 (name.toList.map Char.toLower)

end SuiteLint.Name
