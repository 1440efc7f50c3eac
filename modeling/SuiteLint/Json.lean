import SuiteLint.Text.Hex

/-!
# JSON documents

The JSON values that reports are made of, and their printed form: two blanks for each level, one
member or element on a line, empty lists and objects on the line of their key.
-/

namespace SuiteLint

/-- A JSON value. -/
inductive Json where
  | number (n : Nat)
  | text (s : String)
  | list (elements : List Json)
  | object (members : List (String × Json))
deriving Repr, Inhabited

namespace Json

/-! ## Strings -/

/-- A character inside a string. Quotes, backslashes and control characters are escaped. -/
def escape (c : Char) : List Char :=
  if c == '"' then ['\\', '"']
  else if c == '\\' then ['\\', '\\']
  else if c == '\n' then ['\\', 'n']
  else if c == '\r' then ['\\', 'r']
  else if c == '\t' then ['\\', 't']
  else if c == '\x08' then ['\\', 'b']
  else if c == '\x0c' then ['\\', 'f']
  else if c.toNat < 32 then
    ['\\', 'u', '0', '0', Text.Hex.digit (c.toNat / 16), Text.Hex.digit (c.toNat % 16)]
  else [c]

/-- A string between quotes. -/
def quoteChars (cs : List Char) : List Char := '"' :: (cs.flatMap escape ++ ['"'])

/-- A string between quotes. -/
def quote (s : String) : List Char := quoteChars s.toList

/-! ## Layout -/

/-- The line break in front of an item at a level. -/
def newline (level : Nat) : List Char := '\n' :: List.replicate (2 * level) ' '

mutual

/-- A value whose items stand one level deeper than `level`. -/
def render (level : Nat) : Json → List Char
  | number n => Nat.toDigits 10 n
  | text s => quote s
  | list [] => ['[', ']']
  | list (e :: es) =>
    '[' :: (newline (level + 1) ++ render (level + 1) e ++ renderElements (level + 1) es
      ++ newline level ++ [']'])
  | object [] => ['\x7b', '\x7d']
  | object (m :: ms) =>
    '\x7b' :: (newline (level + 1) ++ renderMember (level + 1) m ++ renderMembers (level + 1) ms
      ++ newline level ++ ['\x7d'])

/-- The elements behind the first one. -/
def renderElements (level : Nat) : List Json → List Char
  | [] => []
  | e :: es => ',' :: (newline level ++ render level e ++ renderElements level es)

/-- A member of an object. -/
def renderMember (level : Nat) : String × Json → List Char
  | (key, value) => quote key ++ ':' :: ' ' :: render level value

/-- The members behind the first one. -/
def renderMembers (level : Nat) : List (String × Json) → List Char
  | [] => []
  | m :: ms => ',' :: (newline level ++ renderMember level m ++ renderMembers level ms)

end

/-- The printed form of a value. -/
def pretty (j : Json) : String := String.ofList (render 0 j)

end Json

end SuiteLint
