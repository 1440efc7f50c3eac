import SuiteLint.Text.Split

/-!
# String literals

The value of a string literal or a text block: what stands between its quotes, with `\n`, `\t` and
`\r` read as control characters and every other escaped character as itself.
-/

namespace SuiteLint.Java.StringLiteral

/-- The character that an escaped character stands for. -/
def escaped (c : Char) : Char :=
  if c == 'n' then '\n'
  else if c == 't' then '\t'
  else if c == 'r' then '\r'
  else c

/-- Characters with their escapes read. -/
def unescape : List Char → List Char
  | [] => []
  | '\\' :: c :: rest => escaped c :: unescape rest
  | c :: rest => c :: unescape rest

/-- What stands between a pair of quotes. -/
def between? (quotes cs : List Char) : Option (List Char) :=
  (Text.dropFront? quotes cs).bind (Text.dropBack? quotes)

/-- What stands between the quotes of a literal; three quotes are tried first. -/
def inner (raw : List Char) : List Char :=
  ((between? ['"', '"', '"'] raw).or (between? ['"'] raw)).getD raw

/-- The value of a literal. -/
def value (raw : String) : String := String.ofList (unescape (inner raw.toList))

end SuiteLint.Java.StringLiteral
