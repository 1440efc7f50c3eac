import SuiteLint.Java.Grammar.Letters

/-!
# Tokens

The tokens that are not just spelled out: numbers, characters, the parts of strings, words and
comments.
-/

namespace SuiteLint.Java.Tokens

open SuiteLint.Parsing (Pattern Token)
open SuiteLint.Parsing.Pattern (oneLetter sequence oneOf many maybe repeated)

/-! ## Numbers -/

/-- Digits of some set, with single underscores between them. -/
def grouped (digits : Parsing.IndexSet) : Pattern :=
  sequence [many (oneLetter digits), repeated (sequence ["_", many (oneLetter digits)])]

/-- A zero, or digits that do not start with one. -/
def decimalDigits : Pattern :=
  oneOf [
    "0",
    sequence [
      oneLetter (Letters.range '1' '9'),
      maybe (sequence [maybe "_", grouped Letters.digits])]]

/-- The mark of a long number. -/
def longMark : Pattern := maybe (oneOf ["l", "L"])

/-- The mark of a number of a floating-point type. -/
def fractionMark : Pattern := oneLetter (Letters.among "fFdD")

/-- A sign of an exponent. -/
def sign : Pattern := oneOf ["-", "+"]

def exponent : Pattern :=
  sequence [oneLetter (Letters.among "eE"), maybe sign, grouped Letters.digits]

/-- What marks a hexadecimal number. -/
def hexMark : Pattern := oneOf ["0x", "0X"]

def decimalInteger : Token := { pattern := sequence [decimalDigits, longMark] }

def hexInteger : Token := { pattern := sequence [hexMark, grouped Letters.hexDigits, longMark] }

def octalInteger : Token :=
  { pattern := sequence [oneOf ["0o", "0O", "0"], grouped Letters.octalDigits, longMark] }

def binaryInteger : Token :=
  { pattern := sequence [oneOf ["0b", "0B"], grouped (Letters.range '0' '1'), longMark] }

def decimalFraction : Token :=
  { pattern := oneOf [
      sequence [
        grouped Letters.digits, ".", maybe (grouped Letters.digits), maybe exponent,
        maybe fractionMark],
      sequence [".", grouped Letters.digits, maybe exponent, maybe fractionMark],
      sequence [decimalDigits, exponent, maybe fractionMark],
      sequence [decimalDigits, maybe exponent, fractionMark]] }

def hexFraction : Token :=
  { pattern := sequence [
      hexMark,
      oneOf [
        sequence [grouped Letters.hexDigits, maybe "."],
        sequence [maybe (grouped Letters.hexDigits), ".", grouped Letters.hexDigits]],
      maybe (sequence [
        oneLetter (Letters.among "pP"), maybe sign, decimalDigits, maybe fractionMark])] }

/-! ## Characters and strings -/

def character : Token :=
  { pattern := sequence [
      "'",
      many (oneOf [
        oneLetter (Letters.except (Letters.among "\\'\n")),
        sequence ["\\", oneLetter (Letters.except (Letters.among "\n"))],
        sequence ["\\", "\n"]]),
      "'"] }

/-- Characters of a string that need no escape. -/
def plainRun : Pattern := many (oneLetter (Letters.except (Letters.among "\"\\")))

/-- Characters of a string. Blanks belong to them. -/
def stringFragment : Token := { pattern := plainRun, immediate := true, rank := 1 }

/-- Characters of a text block. -/
def textBlockRun : Token := { pattern := plainRun }

/-- A quote in a text block, and characters behind it. -/
def textBlockQuote : Token :=
  { pattern := sequence [
      "\"",
      repeated (oneOf [
        oneLetter (Letters.except (Letters.among "\"\\")),
        sequence ["\\", "\""]])] }

/-- A backslash in a text block that escapes nothing. -/
def textBlockEscape : Token :=
  { pattern := sequence ["\\", oneLetter (Letters.except (Letters.among "bfnrts'\"\\"))]
    immediate := true }

def escapeSequence : Token :=
  let octal := oneLetter Letters.octalDigits
  let hex := oneLetter Letters.hexDigits
  { pattern := sequence [
      "\\",
      oneOf [
        oneLetter (Letters.except ((Letters.among "xu").union Letters.octalDigits)),
        sequence [octal, maybe (sequence [octal, maybe octal])],
        sequence ["x", hex, hex],
        sequence ["u", hex, hex, hex, hex],
        sequence ["u", "\x7b", many hex, "\x7d"]]]
    immediate := true }

/-! ## Words and comments -/

def word : Token :=
  { pattern := sequence [oneLetter Letters.nameStarts, repeated (oneLetter Letters.nameParts)] }

def lineComment : Token :=
  { pattern := sequence ["//", repeated (oneLetter (Letters.except (Letters.among "\n")))] }

def blockComment : Token :=
  let notStar := repeated (oneLetter (Letters.except (Letters.among "*")))
  { pattern := sequence [
      "/*", notStar, many "*",
      repeated (sequence [
        oneLetter (Letters.except (Letters.among "/*")), notStar, many "*"]),
      "/"] }

end SuiteLint.Java.Tokens
