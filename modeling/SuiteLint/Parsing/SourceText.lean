import SuiteLint.Parsing.Pattern

/-!
# Source texts

A text as a parser sees it: characters by position, their letters, and for each position the bytes
and line ends before it.
-/

namespace SuiteLint.Parsing

/-- A text with what is known of each position. -/
structure SourceText where
  chars : Array Char
  letters : Array Nat
  /-- For each position, the number of bytes before it. -/
  bytes : Array Nat
  /-- For each position, the number of line ends before it. -/
  rows : Array Nat
deriving Inhabited

namespace SourceText

/-- For each position the sum of what the characters before it count. -/
def sums (count : Char → Nat) (chars : Array Char) : Array Nat :=
  chars.foldl (fun sums c => sums.push (sums.back?.getD 0 + count c)) #[0]

/-- A text over an alphabet. -/
def ofString (alphabet : Alphabet) (s : String) : SourceText :=
  let chars := s.toList.toArray
  { chars
    letters := chars.map alphabet.letter
    bytes := sums (fun c => c.utf8Size) chars
    rows := sums (fun c => if c == '\n' then 1 else 0) chars }

/-- The number of characters. -/
def size (s : SourceText) : Nat := s.chars.size

/-- The number of bytes between two positions. -/
def bytesBetween (s : SourceText) (start stop : Nat) : Nat :=
  s.bytes.getD stop 0 - s.bytes.getD start 0

/-- The number of line ends between two positions. -/
def rowsBetween (s : SourceText) (start stop : Nat) : Nat :=
  s.rows.getD stop 0 - s.rows.getD start 0

/-- The number of the line of a position, from one on. -/
def lineAt (s : SourceText) (position : Nat) : Nat := s.rows.getD position 0 + 1

/-- The text between two positions. -/
def between (s : SourceText) (start stop : Nat) : String :=
  String.ofList (s.chars.extract start stop).toList

end SourceText

end SuiteLint.Parsing
