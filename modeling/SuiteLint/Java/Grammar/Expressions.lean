import SuiteLint.Java.Grammar.Rank
import SuiteLint.Java.Grammar.Tokens

/-!
# Expressions

All expressions, with the type arguments, dimensions, switch blocks and patterns that occur in them.
-/

namespace SuiteLint.Java.Grammar

open Kind
open SuiteLint.Parsing.Rule (sequence oneOf many ranked weighted playing maybe repeated separated)

/-- The operators with two operands, and their ranks. -/
def binaryOperators : List (String × Int) :=
  [ (">", Rank.relation), ("<", Rank.relation), (">=", Rank.relation), ("<=", Rank.relation),
    ("==", Rank.equality), ("!=", Rank.equality), ("&&", Rank.and), ("||", Rank.or),
    ("+", Rank.sum), ("-", Rank.sum), ("*", Rank.product), ("/", Rank.product),
    ("&", Rank.bitAnd), ("|", Rank.bitOr), ("^", Rank.bitXor), ("%", Rank.product),
    ("<<", Rank.shift), (">>", Rank.shift), (">>>", Rank.shift) ]

/-- An operator between its operands. -/
def binary (operator : String × Int) : GrammarRule :=
  ranked operator.2 (some .left) <| sequence [
    playing .left expression, playing .operator operator.1, playing .right expression]

/-- The operators with one operand. -/
def unaryOperators : List String := ["+", "-", "!", "~"]

/-- An operator before its operand. -/
def unary (operator : String) : GrammarRule :=
  ranked Rank.unary (some .left) <| sequence [
    playing .operator operator, playing .operand expression]

/-- The rules of expressions. -/
def expressions : List (Parsing.Definition Kind Role) :=
  [ .rule expression .umbrella
      (oneOf [
        assignment, binaryExpression, instanceofExpression, lambdaExpression, ternary,
        updateExpression, primaryExpression, unaryExpression, castExpression, switchExpression]),
    .rule castExpression .shown
      (ranked Rank.cast none (oneOf [
        sequence ["(", playing .type anyType, ")", playing .value expression],
        sequence [
          "(", separated (playing .type anyType) "&", ")",
          playing .value (oneOf [primaryExpression, lambdaExpression])]])),
    .rule assignment .shown
      (ranked Rank.assignment (some .right) (sequence [
        playing .left (oneOf [identifier, contextualName, fieldAccess, arrayAccess]),
        playing .operator (oneOf [
          "=", "+=", "-=", "*=", "/=", "&=", "|=", "^=", "%=", "<<=", ">>=", ">>>="]),
        playing .right expression])),
    .rule binaryExpression .shown (oneOf (binaryOperators.map binary)),
    .rule instanceofExpression .shown
      (ranked Rank.relation none (sequence [
        playing .left expression, "instanceof", maybe "final",
        oneOf [
          sequence [playing .right anyType, maybe (playing .name simpleName)],
          playing .pattern recordPattern]])),
    .rule lambdaExpression .shown
      (sequence [
        playing .parameters (oneOf [
          identifier, contextualName, formalParameters, inferredParameters]),
        "->", playing .body (oneOf [expression, block])]),
    .rule inferredParameters .shown (sequence ["(", commaSeparated simpleName, ")"]),
    .rule ternary .shown
      (ranked Rank.ternary (some .right) (sequence [
        playing .condition expression, "?", playing .consequence expression, ":",
        playing .alternative expression])),
    .rule unaryExpression .shown (oneOf (unaryOperators.map unary)),
    .rule updateExpression .shown
      (ranked Rank.unary (some .left) (oneOf [
        sequence [expression, "++"], sequence [expression, "--"], sequence ["++", expression],
        sequence ["--", expression]])),
    .rule primaryExpression .umbrella
      (oneOf [
        literal, classLiteral, thisReference, identifier, contextualName, parenthesizedExpression,
        objectCreation, fieldAccess, arrayAccess, methodInvocation, methodReference,
        arrayCreation, templateExpression]),
    .rule arrayCreation .shown
      (ranked 0 (some .right) (sequence [
        "new", repeated anyMarker, playing .type simpleType,
        oneOf [
          sequence [
            playing .dimensions (many sizedDimension), playing .dimensions (maybe dimensions)],
          sequence [playing .dimensions dimensions, playing .value arrayInitializer]]])),
    .rule sizedDimension .shown (sequence [repeated anyMarker, "[", expression, "]"]),
    .rule parenthesizedExpression .shown (sequence ["(", expression, ")"]),
    .rule classLiteral .shown (weighted Weight.classLiteral (sequence [plainType, ".", "class"])),
    .rule objectCreation .shown
      (oneOf [unqualifiedCreation, sequence [primaryExpression, ".", unqualifiedCreation]]),
    .rule unqualifiedCreation .hidden
      (ranked 0 (some .right) (sequence [
        "new",
        oneOf [
          sequence [repeated anyMarker, playing .typeArguments typeArguments, repeated anyMarker],
          repeated anyMarker],
        playing .type simpleType, playing .arguments argumentList, maybe classBody])),
    .rule fieldAccess .shown
      (sequence [
        playing .object (oneOf [primaryExpression, superReference]),
        maybe (sequence [".", superReference]), ".",
        playing .field (oneOf [identifier, contextualName, thisReference])]),
    .rule templateExpression .shown
      (sequence [playing .processor primaryExpression, ".", playing .template stringLiteral]),
    .rule arrayAccess .shown
      (sequence [playing .array primaryExpression, "[", playing .index expression, "]"]),
    .rule methodInvocation .shown
      (sequence [
        oneOf [
          playing .name simpleName,
          sequence [
            playing .object (oneOf [primaryExpression, superReference]), ".",
            maybe (sequence [superReference, "."]), playing .typeArguments (maybe typeArguments),
            playing .name simpleName]],
        playing .arguments argumentList]),
    .rule argumentList .shown (sequence ["(", maybe (commaSeparated expression), ")"]) ]

/-- The rules of method references, type arguments and dimensions. -/
def expressionParts : List (Parsing.Definition Kind Role) :=
  [ .rule methodReference .shown
      (sequence [
        oneOf [anyType, primaryExpression, superReference], "::", maybe typeArguments,
        oneOf ["new", identifier]]),
    .rule typeArguments .shown
      (sequence ["<", maybe (commaSeparated (oneOf [anyType, wildcard])), ">"]),
    .rule wildcard .shown (sequence [repeated anyMarker, "?", maybe wildcardBounds]),
    .rule wildcardBounds .hidden
      (oneOf [sequence ["extends", anyType], sequence [superReference, anyType]]),
    .rule dimensions .shown
      (ranked 0 (some .right) (many (sequence [repeated anyMarker, "[", "]"]))) ]

/-- The rules of switches and patterns. -/
def switches : List (Parsing.Definition Kind Role) :=
  [ .rule switchExpression .shown
      (sequence ["switch", playing .condition parenthesizedExpression, playing .body switchBlock]),
    .rule switchBlock .shown
      (sequence ["\x7b", oneOf [repeated switchGroup, repeated switchRule], "\x7d"]),
    .rule switchGroup .shown
      (ranked 0 (some .left) (sequence [many (sequence [switchLabel, ":"]), repeated statement])),
    .rule switchRule .shown
      (sequence [switchLabel, "->", oneOf [expressionStatement, throwStatement, block]]),
    .rule switchLabel .shown
      (oneOf [
        sequence ["case", oneOf [pattern, commaSeparated expression], maybe caseGuard],
        "default"]),
    .rule pattern .shown (oneOf [typePattern, recordPattern]),
    .rule typePattern .shown (sequence [plainType, simpleName]),
    .rule recordPattern .shown
      (sequence [oneOf [identifier, contextualName, genericType], recordPatternBody]),
    .rule recordPatternBody .shown
      (sequence [
        "(", maybe (commaSeparated (oneOf [recordPatternComponent, recordPattern])), ")"]),
    .rule recordPatternComponent .shown
      (oneOf [underscorePattern, sequence [plainType, simpleName]]),
    .lexeme underscorePattern (.ofText "_"),
    .rule caseGuard .shown (sequence ["when", expression]) ]

end SuiteLint.Java.Grammar
