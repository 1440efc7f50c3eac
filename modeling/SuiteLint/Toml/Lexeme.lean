import SuiteLint.Text.Split

/-!
# The small parts of TOML

Blanks, comments, line ends, strings, keys, and the written forms of numbers and dates. Each reader
takes characters from the front of its input and returns the rest, or fails.
-/

namespace SuiteLint.Toml

/-- What is read and what is left. -/
abbrev Reading (α : Type) : Type := Option (α × List Char)

/-! ## Blanks, comments and line ends -/

/-- Blanks within a line. -/
def isSpace (c : Char) : Bool := c == ' ' || c == '\t'

/-- The input behind blanks. -/
def skipSpaces (cs : List Char) : List Char := cs.dropWhile isSpace

/-- Whether a character may stand in a comment or, unescaped, in a string of one line. -/
def isPrintable (c : Char) : Bool := c == '\t' || (32 ≤ c.toNat && c.toNat != 127)

/-- The input behind a line end, if it starts with one. -/
def lineEnd? : List Char → Option (List Char)
  | '\n' :: rest => some rest
  | '\r' :: '\n' :: rest => some rest
  | _ => none

/-- The input behind a comment, if it starts with one. -/
def skipComment (cs : List Char) : List Char :=
  match cs with
  | '#' :: rest => rest.dropWhile isPrintable
  | _ => cs

/-- The input behind the rest of a line, which may hold a comment. -/
def finishLine (cs : List Char) : Option (List Char) :=
  match skipComment (skipSpaces cs) with
  | [] => some []
  | rest => lineEnd? rest

/-- The input behind blanks, comments and line ends, of which there are at most `n`. -/
def skipLinesWithin : Nat → List Char → List Char
  | 0, cs => cs
  | n + 1, cs =>
    let behind := skipComment (skipSpaces cs)
    match lineEnd? behind with
    | some rest => skipLinesWithin n rest
    | none => behind

/-- The input behind blanks, comments and line ends. -/
def skipLines (cs : List Char) : List Char := skipLinesWithin cs.length cs

/-! ## Strings -/

/-- The value of a hexadecimal digit. -/
def hexDigit? (c : Char) : Option Nat :=
  if c.isDigit then some (c.toNat - 48)
  else if 'a' ≤ c && c ≤ 'f' then some (c.toNat - 87)
  else if 'A' ≤ c && c ≤ 'F' then some (c.toNat - 55)
  else none

/-- The character with a number written in hexadecimal digits. -/
def codePoint? (digits : List Char) : Option Char := do
  let n ← digits.foldlM (fun n c => (hexDigit? c).map (n * 16 + ·)) 0
  if n.isValidChar then some (Char.ofNat n) else none

/-- The character that an escape of one letter stands for. -/
def escaped? : Char → Option Char
  | 'b' => some '\x08'
  | 't' => some '\t'
  | 'n' => some '\n'
  | 'f' => some '\x0c'
  | 'r' => some '\r'
  | 'e' => some '\x1b'
  | '"' => some '"'
  | '\\' => some '\\'
  | _ => none

/-- Puts a character in front of what is read. -/
def prepend (c : Char) : Reading (List Char) → Reading (List Char)
  | some (cs, rest) => some (c :: cs, rest)
  | none => none

/-- Puts a character, if there is one, in front of what is read. -/
def prepend? (c : Option Char) (reading : Reading (List Char)) : Reading (List Char) :=
  match c with
  | some c => prepend c reading
  | none => none

/-- Reads a string behind its opening quote. -/
def readBasic : List Char → Reading (List Char)
  | [] => none
  | '"' :: rest => some ([], rest)
  | '\\' :: 'x' :: a :: b :: rest => prepend? (codePoint? [a, b]) (readBasic rest)
  | '\\' :: 'u' :: a :: b :: c :: d :: rest => prepend? (codePoint? [a, b, c, d]) (readBasic rest)
  | '\\' :: 'U' :: a :: b :: c :: d :: e :: f :: g :: h :: rest =>
    prepend? (codePoint? [a, b, c, d, e, f, g, h]) (readBasic rest)
  | '\\' :: c :: rest => prepend? (escaped? c) (readBasic rest)
  | c :: rest => if isPrintable c then prepend c (readBasic rest) else none

/-- Whether only blanks stand before the next line end. -/
def endsLine (cs : List Char) : Bool := (lineEnd? (skipSpaces cs)).isSome

/-- Reads a string of several lines behind its opening quotes. A backslash at the end of a line
takes away the line end and all blanks behind it; `skipping` says that this is going on. -/
def readBasicLines (skipping : Bool) : List Char → Reading (List Char)
  | [] => none
  | '"' :: '"' :: '"' :: '"' :: '"' :: rest => some (['"', '"'], rest)
  | '"' :: '"' :: '"' :: '"' :: rest => some (['"'], rest)
  | '"' :: '"' :: '"' :: rest => some ([], rest)
  | '\r' :: '\n' :: rest =>
    if skipping then readBasicLines true rest
    else prepend '\r' (prepend '\n' (readBasicLines false rest))
  | '\n' :: rest =>
    if skipping then readBasicLines true rest else prepend '\n' (readBasicLines false rest)
  | '\\' :: 'x' :: a :: b :: rest => prepend? (codePoint? [a, b]) (readBasicLines false rest)
  | '\\' :: 'u' :: a :: b :: c :: d :: rest =>
    prepend? (codePoint? [a, b, c, d]) (readBasicLines false rest)
  | '\\' :: 'U' :: a :: b :: c :: d :: e :: f :: g :: h :: rest =>
    prepend? (codePoint? [a, b, c, d, e, f, g, h]) (readBasicLines false rest)
  | '\\' :: c :: rest =>
    if endsLine (c :: rest) then readBasicLines true rest
    else prepend? (escaped? c) (readBasicLines false rest)
  | c :: rest =>
    if skipping && isSpace c then readBasicLines true rest
    else if isPrintable c then prepend c (readBasicLines false rest)
    else none

/-- Reads a string without escapes behind its opening quote. -/
def readLiteral : List Char → Reading (List Char)
  | [] => none
  | '\'' :: rest => some ([], rest)
  | c :: rest => if isPrintable c then prepend c (readLiteral rest) else none

/-- Reads a string without escapes of several lines behind its opening quotes. -/
def readLiteralLines : List Char → Reading (List Char)
  | [] => none
  | '\'' :: '\'' :: '\'' :: '\'' :: '\'' :: rest => some (['\'', '\''], rest)
  | '\'' :: '\'' :: '\'' :: '\'' :: rest => some (['\''], rest)
  | '\'' :: '\'' :: '\'' :: rest => some ([], rest)
  | '\r' :: '\n' :: rest => prepend '\r' (prepend '\n' (readLiteralLines rest))
  | '\n' :: rest => prepend '\n' (readLiteralLines rest)
  | c :: rest => if isPrintable c then prepend c (readLiteralLines rest) else none

/-- The input without the line end that it may start with. -/
def dropLineEnd (cs : List Char) : List Char := (lineEnd? cs).getD cs

/-- Turns the characters that are read into a string. -/
def asText (reading : Reading (List Char)) : Reading String :=
  reading.map fun r => (String.ofList r.1, r.2)

/-- Reads a string. -/
def readString : List Char → Reading String
  | '"' :: '"' :: '"' :: rest => asText (readBasicLines false (dropLineEnd rest))
  | '"' :: rest => asText (readBasic rest)
  | '\'' :: '\'' :: '\'' :: rest => asText (readLiteralLines (dropLineEnd rest))
  | '\'' :: rest => asText (readLiteral rest)
  | _ => none

/-! ## Keys -/

/-- Whether a character may stand in a key without quotes. -/
def isBareKey (c : Char) : Bool := c.isAlphanum || c == '_' || c == '-'

/-- Reads one segment of a key. -/
def readSegment (cs : List Char) : Reading String :=
  match cs with
  | '"' :: rest => asText (readBasic rest)
  | '\'' :: rest => asText (readLiteral rest)
  | _ =>
    let bare := cs.takeWhile isBareKey
    if bare.isEmpty then none else some (String.ofList bare, cs.drop bare.length)

/-- Reads a key of at most `n + 1` segments with dots between them. -/
def readKeyWithin : Nat → List Char → Option (List String × List Char)
  | 0, _ => none
  | n + 1, cs => do
    let (segment, rest) ← readSegment (skipSpaces cs)
    match skipSpaces rest with
    | '.' :: rest =>
      let (path, rest) ← readKeyWithin n rest
      return (segment :: path, rest)
    | rest => return ([segment], rest)

/-- Reads a key: the segments before the last one, and the last one. -/
def readKey (cs : List Char) : Option ((List String × String) × List Char) := do
  let (segments, rest) ← readKeyWithin (cs.length + 1) cs
  let last ← segments.getLast?
  return ((segments.dropLast, last), rest)

/-! ## Numbers, truth values and dates -/

/-- Digits of a base with single underscores between them. -/
def isDigits (isDigit : Char → Bool) (cs : List Char) : Bool :=
  (Text.splitChars (· == '_') cs).all fun run => !run.isEmpty && run.all isDigit

/-- Characters without a sign in front. -/
def dropSign (cs : List Char) : List Char :=
  match cs with
  | '+' :: rest => rest
  | '-' :: rest => rest
  | _ => cs

/-- A decimal number without a sign and without zeros in front. -/
def isWhole (cs : List Char) : Bool :=
  isDigits Char.isDigit cs && (cs.length == 1 || cs.head? != some '0')

/-- The digits behind the sign of a base. There may be none: only the characters of such a number
are looked at, and its value only where one is wanted. -/
def isBaseDigits (isDigit : Char → Bool) (cs : List Char) : Bool :=
  cs.isEmpty || isDigits isDigit cs

/-- An integer. -/
def isInteger (cs : List Char) : Bool :=
  match cs with
  | '0' :: 'x' :: rest => isBaseDigits (fun c => (hexDigit? c).isSome) rest
  | '0' :: 'o' :: rest => isBaseDigits (fun c => '0' ≤ c && c ≤ '7') rest
  | '0' :: 'b' :: rest => isBaseDigits (fun c => c == '0' || c == '1') rest
  | _ => isWhole (dropSign cs)

/-- A number with a fraction or an exponent. -/
def isFloat (cs : List Char) : Bool :=
  let body := dropSign cs
  if body == ['i', 'n', 'f'] || body == ['n', 'a', 'n'] then true
  else
    let mantissa := body.takeWhile fun c => c != 'e' && c != 'E'
    let exponent := (body.drop mantissa.length).drop 1
    let whole := mantissa.takeWhile (· != '.')
    let fraction := (mantissa.drop whole.length).drop 1
    let hasExponent := mantissa.length < body.length
    let hasFraction := whole.length < mantissa.length
    (hasExponent || hasFraction) && isWhole whole
      && (!hasFraction || isDigits Char.isDigit fraction)
      && (!hasExponent || isDigits Char.isDigit (dropSign exponent))

/-- The number that so many digits write. -/
def digits? (count : Nat) (cs : List Char) : Option Nat :=
  if cs.length == count && cs.all Char.isDigit then
    some (cs.foldl (fun n c => n * 10 + (c.toNat - 48)) 0)
  else none

/-- The number of days of a month. -/
def daysOf (year month : Nat) : Nat :=
  if month == 2 then
    if year % 4 == 0 && (year % 100 != 0 || year % 400 == 0) then 29 else 28
  else if month == 4 || month == 6 || month == 9 || month == 11 then 30
  else 31

/-- A date. -/
def isDate (cs : List Char) : Bool :=
  match (Text.splitChars (· == '-') cs) with
  | [y, m, d] =>
    match digits? 4 y, digits? 2 m, digits? 2 d with
    | some year, some month, some day =>
      1 ≤ month && month ≤ 12 && 1 ≤ day && day ≤ daysOf year month
    | _, _, _ => false
  | _ => false

/-- A two-digit number that is not above a bound. -/
def isBelow (bound : Nat) (cs : List Char) : Bool :=
  match digits? 2 cs with
  | some n => n ≤ bound
  | none => false

/-- Seconds, with or without a fraction. -/
def isSeconds (cs : List Char) : Bool :=
  isBelow 60 (cs.take 2) &&
    match cs.drop 2 with
    | [] => true
    | '.' :: fraction => !fraction.isEmpty && fraction.all Char.isDigit
    | _ => false

/-- A time of day; the seconds may be missing. -/
def isTime (cs : List Char) : Bool :=
  match Text.splitChars (· == ':') cs with
  | [h, m] => isBelow 23 h && isBelow 59 m
  | [h, m, s] => isBelow 23 h && isBelow 59 m && isSeconds s
  | _ => false

/-- A time of day with or without an offset. -/
def isOffsetTime (cs : List Char) : Bool :=
  match cs.getLast? with
  | some 'Z' => isTime cs.dropLast
  | some 'z' => isTime cs.dropLast
  | _ =>
    let clock := cs.takeWhile fun c => c != '+' && c != '-'
    match cs.drop clock.length with
    | [] => isTime clock
    | _ :: offset =>
      isTime clock &&
        match Text.splitChars (· == ':') offset with
        | [h, m] => isBelow 23 h && isBelow 59 m
        | _ => false

/-- A date, a time, or both. -/
def isDateTime (cs : List Char) : Bool :=
  isDate cs || isTime cs ||
    (isDate (cs.take 10) && ['T', 't', ' '].contains (cs.getD 10 'x') && isOffsetTime (cs.drop 11))

/-- The written forms of numbers, truth values and dates. -/
def isScalar (cs : List Char) : Bool :=
  cs == "true".toList || cs == "false".toList || isInteger cs || isFloat cs || isDateTime cs

/-- Whether a character may belong to a number, a truth value or a date. -/
def isScalarChar (c : Char) : Bool :=
  c.isAlphanum || c == '_' || c == '-' || c == '+' || c == '.' || c == ':'

/-- Reads a number, a truth value or a date. A date and a time may have one blank between them. -/
def readScalar (cs : List Char) : Reading String :=
  let word := cs.takeWhile isScalarChar
  let behind := cs.drop word.length
  let full :=
    match behind with
    | ' ' :: c :: rest =>
      if isDate word && c.isDigit then word ++ ' ' :: (c :: rest).takeWhile isScalarChar else word
    | _ => word
  if isScalar full then some (String.ofList full, cs.drop full.length) else none

end SuiteLint.Toml
