import SuiteLint.Java.Grammar.Rank
import SuiteLint.Java.Grammar.Tokens

/-!
# Literals

Numbers, characters and strings. A string and a text block may have expressions inside.
-/

namespace SuiteLint.Java.Grammar

open Kind
open SuiteLint.Parsing.Rule (sequence oneOf ranked repeated)

/-- The rules of literals. -/
def literals : List (Parsing.Definition Kind Role) :=
  [ .rule literal .umbrella
      (oneOf [
        decimalInteger, hexInteger, octalInteger, binaryInteger, decimalFraction, hexFraction,
        trueLiteral, falseLiteral, characterLiteral, stringLiteral, nullLiteral]),
    .lexeme decimalInteger Tokens.decimalInteger,
    .lexeme hexInteger Tokens.hexInteger,
    .lexeme octalInteger Tokens.octalInteger,
    .lexeme binaryInteger Tokens.binaryInteger,
    .lexeme decimalFraction Tokens.decimalFraction,
    .lexeme hexFraction Tokens.hexFraction,
    .lexeme trueLiteral (.ofText "true"),
    .lexeme falseLiteral (.ofText "false"),
    .lexeme characterLiteral Tokens.character,
    .rule stringLiteral .shown (oneOf [quotedString, textBlock]),
    .rule quotedString .hidden
      (sequence ["\"", repeated (oneOf [stringFragment, escapeSequence, interpolation]), "\""]),
    .rule textBlock .hidden
      (sequence [
        "\"\"\"", repeated (oneOf [textBlockFragment, textBlockEscape, interpolation]), "\"\"\""]),
    .lexeme stringFragment Tokens.stringFragment,
    .rule textBlockFragment .shown (oneOf [
      .atom (.token Tokens.textBlockRun), .atom (.token Tokens.textBlockQuote)]),
    .rule interpolation .shown (sequence ["\\\x7b", expression, "\x7d"]),
    .rule textBlockEscape .hidden
      (oneOf [
        ranked 2 none (.atom (.token Tokens.textBlockEscape)), ranked 1 none escapeSequence]),
    .lexeme escapeSequence Tokens.escapeSequence,
    .lexeme nullLiteral (.ofText "null") ]

end SuiteLint.Java.Grammar
