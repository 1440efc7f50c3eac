import SuiteLint.Java.Grammar.Rank
import SuiteLint.Java.Grammar.Tokens

/-!
# Types and methods

How types are written, and the heads of methods.
-/

namespace SuiteLint.Java.Grammar

open Kind
open SuiteLint.Parsing.Rule (sequence oneOf many ranked weighted shownAs playing maybe repeated)

/-- The rules of types. -/
def typeNames : List (Parsing.Definition Kind Role) :=
  [ .rule anyType .umbrella (oneOf [plainType, markedType]),
    .rule plainType .umbrella (oneOf [simpleType, arrayType]),
    .rule simpleType .spliced
      (oneOf [
        voidType, integralType, floatingPointType, booleanType, shownAs typeIdentifier identifier,
        scopedTypeIdentifier, genericType]),
    .rule markedType .shown (sequence [many anyMarker, plainType]),
    .rule scopedTypeIdentifier .shown
      (sequence [
        oneOf [shownAs typeIdentifier identifier, scopedTypeIdentifier, genericType], ".",
        repeated anyMarker, shownAs typeIdentifier identifier]),
    .rule genericType .shown
      (weighted Weight.genericType (sequence [
        oneOf [shownAs typeIdentifier identifier, scopedTypeIdentifier], typeArguments])),
    .rule arrayType .shown
      (sequence [playing .element plainType, playing .dimensions dimensions]),
    .rule integralType .shown (oneOf ["byte", "short", "int", "long", "char"]),
    .rule floatingPointType .shown (oneOf ["float", "double"]),
    .lexeme booleanType (.ofText "boolean"),
    .lexeme voidType (.ofText "void") ]

/-- The rules of methods and their parameters. -/
def methods : List (Parsing.Definition Kind Role) :=
  [ .rule methodHeader .hidden
      (sequence [
        maybe (sequence [playing .typeParameters typeParameters, repeated anyMarker]),
        playing .type plainType, methodDeclarator, maybe throws]),
    .rule methodDeclarator .hidden
      (sequence [
        playing .name simpleName, playing .parameters formalParameters,
        playing .dimensions (maybe dimensions)]),
    .rule formalParameters .shown
      (sequence [
        "(",
        oneOf [
          receiverParameter,
          sequence [
            maybe (sequence [receiverParameter, ","]),
            maybe (commaSeparated (oneOf [formalParameter, spreadParameter]))]],
        ")"]),
    .rule formalParameter .shown
      (sequence [maybe modifiers, playing .type plainType, declaratorName]),
    .rule receiverParameter .shown
      (sequence [
        repeated anyMarker, plainType, repeated (sequence [identifier, "."]), thisReference]),
    .rule spreadParameter .shown
      (sequence [maybe modifiers, plainType, "...", repeated anyMarker, variableDeclarator]),
    .rule throws .shown (sequence ["throws", commaSeparated anyType]),
    .rule localVariableDeclaration .shown
      (sequence [maybe modifiers, playing .type plainType, declaratorList, ";"]),
    .rule methodDeclaration .shown
      (sequence [maybe modifiers, methodHeader, oneOf [playing .body block, ";"]]),
    .rule compactConstructor .shown
      (sequence [maybe modifiers, playing .name identifier, playing .body block]) ]

/-- The rules of names and comments. Some keywords are names outside their own place. -/
def names : List (Parsing.Definition Kind Role) :=
  [ .rule contextualName .hidden
      (oneOf [
        ranked (-3) none (shownAs identifier (oneOf [
          "open", "module", "record", "with", "sealed"])),
        shownAs identifier "yield"]),
    .lexeme thisReference (.ofText "this"),
    .lexeme superReference (.ofText "super"),
    .lexeme identifier Tokens.word,
    .lexeme lineComment Tokens.lineComment,
    .lexeme blockComment Tokens.blockComment ]

end SuiteLint.Java.Grammar
