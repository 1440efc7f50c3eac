/-!
# Runs of code points

A character class is written down as a list of runs. A run covers every `step`-th code point from
`first` to `last`; a step of two describes the scripts in which capital and small letters alternate.
-/

namespace SuiteLint.Text

/-- The code points `first, first + step, …` up to `last`. -/
structure Run where
  first : Nat
  last : Nat
  step : Nat
deriving Repr, DecidableEq

namespace Run

/-- Whether a code point lies on the run. -/
def covers (r : Run) (n : Nat) : Bool :=
  r.first ≤ n && n ≤ r.last && (n - r.first) % r.step == 0

/-- Whether some run of a table covers the code point of a character. -/
def tableHas (table : List Run) (c : Char) : Bool :=
  table.any fun r => r.covers c.toNat

end Run

/-- Whether a character is one of the 128 ASCII characters. -/
def isAscii (c : Char) : Bool := c.toNat < 128

end SuiteLint.Text
