import SuiteLint.Text.Alphabetic
import SuiteLint.Text.Casing
import SuiteLint.Text.Lowercase
import SuiteLint.Text.Numeric
import SuiteLint.Text.Uppercase

/-!
# Character classes of names

The classes that cutting a name into words needs, gathered in one place.
-/

namespace SuiteLint.Text

/-- Whether a character is a letter or a number. -/
def isAlphanumeric (c : Char) : Bool := isAlphabetic c || isNumeric c

/-- Whether a character is an ASCII letter or digit. -/
def isAsciiAlphanumeric (c : Char) : Bool := c.isAlphanum

/-- Whether a character is an ASCII digit. -/
def isAsciiDigit (c : Char) : Bool := c.isDigit

end SuiteLint.Text
