import SuiteLint.Java.Grammar.Rank
import SuiteLint.Java.Grammar.Tokens

/-!
# Statements

All statements. An expression with a semicolon behind it is one, and so is a declaration.
-/

namespace SuiteLint.Java.Grammar

open Kind
open SuiteLint.Parsing.Rule (sequence oneOf many ranked playing maybe repeated separated)

/-- The rules of statements. -/
def statements : List (Parsing.Definition Kind Role) :=
  [ .rule statement .umbrella
      (oneOf [
        declaration, expressionStatement, labeledStatement, ifStatement, whileStatement,
        forStatement, enhancedFor, block, ";", assertStatement, doStatement, breakStatement,
        continueStatement, returnStatement, yieldStatement, switchExpression,
        synchronizedStatement, localVariableDeclaration, throwStatement, tryStatement,
        tryWithResources]),
    .rule block .shown (sequence ["\x7b", repeated statement, "\x7d"]),
    .rule expressionStatement .shown (sequence [expression, ";"]),
    .rule labeledStatement .shown (sequence [identifier, ":", statement]),
    .rule assertStatement .shown
      (oneOf [
        sequence ["assert", expression, ";"],
        sequence ["assert", expression, ":", expression, ";"]]),
    .rule doStatement .shown
      (sequence [
        "do", playing .body statement, "while", playing .condition parenthesizedExpression, ";"]),
    .rule breakStatement .shown (sequence ["break", maybe identifier, ";"]),
    .rule continueStatement .shown (sequence ["continue", maybe identifier, ";"]),
    .rule returnStatement .shown (sequence ["return", maybe expression, ";"]),
    .rule yieldStatement .shown (sequence ["yield", expression, ";"]),
    .rule synchronizedStatement .shown
      (sequence ["synchronized", parenthesizedExpression, playing .body block]),
    .rule throwStatement .shown (sequence ["throw", expression, ";"]),
    .rule tryStatement .shown
      (sequence [
        "try", playing .body block,
        oneOf [many catchClause, sequence [repeated catchClause, finallyClause]]]),
    .rule catchClause .shown (sequence ["catch", "(", catchParameter, ")", playing .body block]),
    .rule catchParameter .shown (sequence [maybe modifiers, catchType, declaratorName]),
    .rule catchType .shown (separated plainType "|"),
    .rule finallyClause .shown (sequence ["finally", block]),
    .rule tryWithResources .shown
      (sequence [
        "try", playing .resources resourceSpecification, playing .body block,
        repeated catchClause, maybe finallyClause]),
    .rule resourceSpecification .shown (sequence ["(", separated resource ";", maybe ";", ")"]),
    .rule resource .shown
      (oneOf [
        sequence [
          maybe modifiers, playing .type plainType, declaratorName, "=",
          playing .value expression],
        identifier, fieldAccess]),
    .rule ifStatement .shown
      (ranked 0 (some .right) (sequence [
        "if", playing .condition parenthesizedExpression, playing .consequence statement,
        maybe (sequence ["else", playing .alternative statement])])),
    .rule whileStatement .shown
      (sequence ["while", playing .condition parenthesizedExpression, playing .body statement]),
    .rule forStatement .shown
      (sequence [
        "for", "(",
        oneOf [
          playing .start localVariableDeclaration,
          sequence [maybe (commaSeparated (playing .start expression)), ";"]],
        playing .condition (maybe expression), ";",
        maybe (commaSeparated (playing .update expression)), ")", playing .body statement]),
    .rule enhancedFor .shown
      (sequence [
        "for", "(", maybe modifiers, playing .type plainType, declaratorName, ":",
        playing .value expression, ")", playing .body statement]) ]

end SuiteLint.Java.Grammar
