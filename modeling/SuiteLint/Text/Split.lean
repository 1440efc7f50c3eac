import SuiteLint.Text.Blank

/-!
# Cutting texts

Texts are cut at separators, into lines and into words between white space. Each operation works on
lists of characters; the versions on strings only convert.
-/

namespace SuiteLint.Text

/-! ## Separators -/

/-- The pieces between the characters that satisfy `sep`; there is always at least one piece. -/
def splitChars (sep : Char → Bool) : List Char → List (List Char)
  | [] => [[]]
  | c :: cs =>
    if sep c then [] :: splitChars sep cs
    else
      match splitChars sep cs with
      | piece :: pieces => (c :: piece) :: pieces
      | [] => [[c]]

/-- The pieces of a text between the characters that satisfy `sep`. -/
def split (sep : Char → Bool) (s : String) : List String :=
  (splitChars sep s.toList).map String.ofList

/-- What follows the last character that satisfies `sep`; everything if there is none. -/
def lastPieceChars (sep : Char → Bool) (cs : List Char) : List Char :=
  (cs.reverse.takeWhile fun c => !sep c).reverse

/-- The last piece of a text between the characters that satisfy `sep`. -/
def lastPiece (sep : Char → Bool) (s : String) : String :=
  String.ofList (lastPieceChars sep s.toList)

/-- The last segment of a dotted name. -/
def simpleName (s : String) : String := lastPiece (· == '.') s

/-- What stands before and after the last occurrence of a character. -/
def splitLastChars? (sep : Char) (cs : List Char) : Option (List Char × List Char) :=
  match cs.reverse.dropWhile (· != sep) with
  | [] => none
  | _ :: before => some (before.reverse, lastPieceChars (· == sep) cs)

/-- What stands before and after the last occurrence of a character in a text. -/
def splitLast? (sep : Char) (s : String) : Option (String × String) :=
  (splitLastChars? sep s.toList).map fun p => (String.ofList p.1, String.ofList p.2)

/-- What stands before the first occurrence of a character; everything if there is none. -/
def firstPiece (sep : Char) (s : String) : String :=
  String.ofList (s.toList.takeWhile (· != sep))

/-! ## White space -/

/-- Characters without the white space at both ends. -/
def trimChars (cs : List Char) : List Char :=
  ((cs.dropWhile isBlank).reverse.dropWhile isBlank).reverse

/-- A text without the white space at both ends. -/
def trim (s : String) : String := String.ofList (trimChars s.toList)

/-- The non-empty pieces between white space. -/
def fieldChars (cs : List Char) : List (List Char) :=
  (splitChars isBlank cs).filter fun piece => !piece.isEmpty

/-- The words of a text that white space separates. -/
def fields (s : String) : List String := (fieldChars s.toList).map String.ofList

/-! ## Lines -/

/-- A line without the carriage return at its end. -/
def dropReturn (cs : List Char) : List Char :=
  if cs.getLast? = some '\r' then cs.dropLast else cs

/-- Strips the carriage return of every piece that a line feed ended, and drops an empty last
piece. -/
def finishLines : List (List Char) → List (List Char)
  | [] => []
  | [last] => if last.isEmpty then [] else [last]
  | line :: more => dropReturn line :: finishLines more

/-- The lines of a text. A line ends at a line feed, with or without a carriage return before it;
the last line need not end. -/
def lineChars (cs : List Char) : List (List Char) :=
  finishLines (splitChars (· == '\n') cs)

/-- The lines of a text. -/
def lines (s : String) : List String := (lineChars s.toList).map String.ofList

/-! ## Prefixes and suffixes -/

/-- What follows `front` in a list that starts with it. -/
def dropFront? {α : Type} [BEq α] : List α → List α → Option (List α)
  | [], rest => some rest
  | _ :: _, [] => none
  | a :: front, b :: rest => if a == b then dropFront? front rest else none

/-- What precedes `back` in a list that ends with it. -/
def dropBack? {α : Type} [BEq α] (back cs : List α) : Option (List α) :=
  (dropFront? back.reverse cs.reverse).map List.reverse

/-- What follows `front` in a text that starts with it. -/
def stripFront? (front s : String) : Option String :=
  (dropFront? front.toList s.toList).map String.ofList

/-- What precedes `back` in a text that ends with it. -/
def stripBack? (back s : String) : Option String :=
  (dropBack? back.toList s.toList).map String.ofList

/-- Whether a text starts with another one. -/
def startsWith (front s : String) : Bool := (dropFront? front.toList s.toList).isSome

/-- Whether a text ends with another one. -/
def endsWith (back s : String) : Bool := (dropBack? back.toList s.toList).isSome

/-- A text with every occurrence of one character replaced by another. -/
def replaceChar (old new : Char) (s : String) : String :=
  s.map fun c => if c == old then new else c

end SuiteLint.Text
