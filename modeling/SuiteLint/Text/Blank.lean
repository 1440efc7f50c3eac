import SuiteLint.Text.Run

/-!
# White space

The characters that separate words: tab, line feed, vertical tab, form feed, carriage return and
space in ASCII, and the spaces and separators above it.
-/

namespace SuiteLint.Text

/-- White space code points above ASCII. -/
def blankRuns : List Run :=
  [ ⟨0x85, 0x85, 1⟩, ⟨0xA0, 0xA0, 1⟩, ⟨0x1680, 0x1680, 1⟩, ⟨0x2000, 0x200A, 1⟩,
    ⟨0x2028, 0x2029, 1⟩, ⟨0x202F, 0x202F, 1⟩, ⟨0x205F, 0x205F, 1⟩, ⟨0x3000, 0x3000, 1⟩ ]

/-- Whether a character is white space. -/
def isBlank (c : Char) : Bool :=
  if isAscii c then (9 ≤ c.toNat && c.toNat ≤ 13) || c.toNat == 32
  else Run.tableHas blankRuns c

end SuiteLint.Text
