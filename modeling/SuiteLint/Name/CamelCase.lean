import SuiteLint.Name.Words

/-!
# Camel case

A name is in camel case if it is made of ASCII letters and digits only, starts with a small letter,
has at least two words, and none of its words holds a digit.
-/

namespace SuiteLint.Name

open Text

/-- Whether a name is in camel case. -/
def isCamelCase (name : String) : Bool :=
  let parts := words name
  name.toList.head?.any Char.isLower
    && name.toList.all isAsciiAlphanumeric
    && 2 ≤ parts.length
    && parts.all fun w => w.toList.all isAlphabetic

end SuiteLint.Name
