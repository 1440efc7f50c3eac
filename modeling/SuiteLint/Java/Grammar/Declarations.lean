import SuiteLint.Java.Grammar.Rank
import SuiteLint.Java.Grammar.Tokens

/-!
# Declarations

Annotations, modules, packages, imports and types with their members.
-/

namespace SuiteLint.Java.Grammar

open Kind
open SuiteLint.Parsing.Rule (sequence oneOf many ranked shownAs playing maybe repeated)

/-- The rules of annotations. -/
def markers : List (Parsing.Definition Kind Role) :=
  [ .rule anyMarker .hidden (oneOf [bareMarker, marker]),
    .rule bareMarker .shown (sequence ["@", playing .name anyName]),
    .rule marker .shown
      (sequence ["@", playing .name anyName, playing .arguments markerArguments]),
    .rule markerArguments .shown
      (sequence ["(", oneOf [elementValue, maybe (commaSeparated elementPair)], ")"]),
    .rule elementPair .shown
      (sequence [playing .key simpleName, "=", playing .value elementValue]),
    .rule elementValue .hidden
      (ranked Rank.declaration none (oneOf [expression, elementArray, anyMarker])),
    .rule elementArray .shown
      (sequence ["\x7b", maybe (commaSeparated elementValue), maybe ",", "\x7d"]) ]

/-- The rules of modules, packages and imports. -/
def units : List (Parsing.Definition Kind Role) :=
  [ .rule declaration .umbrella
      (ranked Rank.declaration none (oneOf [
        moduleDeclaration, packageDeclaration, importDeclaration, classDeclaration,
        recordDeclaration, interfaceDeclaration, markerTypeDeclaration, enumDeclaration])),
    .rule moduleDeclaration .shown
      (sequence [
        repeated anyMarker, maybe "open", "module", playing .name anyName,
        playing .body moduleBody]),
    .rule moduleBody .shown (sequence ["\x7b", repeated moduleDirective, "\x7d"]),
    .rule moduleDirective .umbrella
      (oneOf [
        requiresDirective, exportsDirective, opensDirective, usesDirective, providesDirective]),
    .rule requiresDirective .shown
      (sequence [
        "requires", repeated (playing .modifiers requiresModifier), playing .moduleName anyName,
        ";"]),
    .rule requiresModifier .shown (oneOf ["transitive", "static"]),
    .rule exportsDirective .shown
      (sequence [
        "exports", playing .packageName anyName,
        maybe (sequence [
          "to", playing .moduleNames anyName,
          repeated (sequence [",", playing .moduleNames anyName])]),
        ";"]),
    .rule opensDirective .shown
      (sequence [
        "opens", playing .packageName anyName,
        maybe (sequence [
          "to", playing .moduleNames anyName,
          repeated (sequence [",", playing .moduleNames anyName])]),
        ";"]),
    .rule usesDirective .shown (sequence ["uses", playing .type anyName, ";"]),
    .rule providesDirective .shown
      (sequence [
        "provides", playing .provided anyName, "with", anyName,
        repeated (sequence [",", playing .provider anyName]), ";"]),
    .rule packageDeclaration .shown (sequence [repeated anyMarker, "package", anyName, ";"]),
    .rule importDeclaration .shown
      (sequence ["import", maybe "static", anyName, maybe (sequence [".", asterisk]), ";"]),
    .rule asterisk .shown "*" ]

/-- The rules of enums, classes and their members. -/
def types : List (Parsing.Definition Kind Role) :=
  [ .rule enumDeclaration .shown
      (sequence [
        maybe modifiers, "enum", playing .name identifier,
        playing .interfaces (maybe superInterfaces), playing .body enumBody]),
    .rule enumBody .shown
      (sequence [
        "\x7b", maybe (commaSeparated enumConstant), maybe ",", maybe enumBodyDeclarations,
        "\x7d"]),
    .rule enumBodyDeclarations .shown (sequence [";", repeated member]),
    .rule enumConstant .shown
      (sequence [
        maybe modifiers, playing .name identifier, playing .arguments (maybe argumentList),
        playing .body (maybe classBody)]),
    .rule classDeclaration .shown
      (sequence [
        maybe modifiers, "class", playing .name identifier,
        maybe (playing .typeParameters typeParameters), maybe (playing .superclass superclass),
        maybe (playing .interfaces superInterfaces), maybe (playing .permits permits),
        playing .body classBody]),
    .rule modifiers .shown
      (many (oneOf [
        anyMarker, "public", "protected", "private", "abstract", "static", "final", "strictfp",
        "default", "synchronized", "native", "transient", "volatile", "sealed", "non-sealed"])),
    .rule typeParameters .shown (sequence ["<", commaSeparated typeParameter, ">"]),
    .rule typeParameter .shown
      (sequence [repeated anyMarker, shownAs typeIdentifier identifier, maybe typeBound]),
    .rule typeBound .shown (sequence ["extends", anyType, repeated (sequence ["&", anyType])]),
    .rule superclass .shown (sequence ["extends", anyType]),
    .rule superInterfaces .shown (sequence ["implements", typeList]),
    .rule typeList .shown (commaSeparated anyType),
    .rule permits .shown (sequence ["permits", typeList]),
    .rule classBody .shown (sequence ["\x7b", repeated member, "\x7d"]),
    .rule member .spliced
      (oneOf [
        fieldDeclaration, recordDeclaration, methodDeclaration, compactConstructor,
        classDeclaration, interfaceDeclaration, markerTypeDeclaration, enumDeclaration, block,
        staticInitializer, constructorDeclaration, ";"]),
    .rule staticInitializer .shown (sequence ["static", block]),
    .rule constructorDeclaration .shown
      (sequence [maybe modifiers, constructorHead, maybe throws, playing .body constructorBody]),
    .rule constructorHead .hidden
      (sequence [
        playing .typeParameters (maybe typeParameters), playing .name identifier,
        playing .parameters formalParameters]),
    .rule constructorBody .shown
      (sequence ["\x7b", maybe constructorInvocation, repeated statement, "\x7d"]),
    .rule constructorInvocation .shown
      (sequence [
        oneOf [
          sequence [
            playing .typeArguments (maybe typeArguments),
            playing .target (oneOf [thisReference, superReference])],
          sequence [
            playing .object (oneOf [primaryExpression]), ".",
            playing .typeArguments (maybe typeArguments), playing .target superReference]],
        playing .arguments argumentList, ";"]),
    .rule anyName .spliced (oneOf [identifier, contextualName, scopedIdentifier]),
    .rule scopedIdentifier .shown
      (sequence [playing .scope anyName, ".", playing .name identifier]),
    .rule fieldDeclaration .shown
      (sequence [maybe modifiers, playing .type plainType, declaratorList, ";"]),
    .rule recordDeclaration .shown
      (sequence [
        maybe modifiers, "record", playing .name identifier,
        maybe (playing .typeParameters typeParameters), playing .parameters formalParameters,
        maybe (playing .interfaces superInterfaces), playing .body classBody]) ]

/-- The rules of annotation types and interfaces. -/
def interfaces : List (Parsing.Definition Kind Role) :=
  [ .rule markerTypeDeclaration .shown
      (sequence [
        maybe modifiers, "@interface", playing .name identifier, playing .body markerTypeBody]),
    .rule markerTypeBody .shown
      (sequence [
        "\x7b",
        repeated (oneOf [
          markerElement, constantDeclaration, classDeclaration, interfaceDeclaration,
          enumDeclaration, markerTypeDeclaration, ";"]),
        "\x7d"]),
    .rule markerElement .shown
      (sequence [
        maybe modifiers, playing .type plainType, playing .name simpleName, "(", ")",
        playing .dimensions (maybe dimensions), maybe defaultValue, ";"]),
    .rule defaultValue .hidden (sequence ["default", playing .value elementValue]),
    .rule interfaceDeclaration .shown
      (sequence [
        maybe modifiers, "interface", playing .name identifier,
        playing .typeParameters (maybe typeParameters), maybe extendsInterfaces,
        maybe (playing .permits permits), playing .body interfaceBody]),
    .rule extendsInterfaces .shown (sequence ["extends", typeList]),
    .rule interfaceBody .shown
      (sequence [
        "\x7b",
        repeated (oneOf [
          constantDeclaration, enumDeclaration, methodDeclaration, classDeclaration,
          interfaceDeclaration, recordDeclaration, markerTypeDeclaration, ";"]),
        "\x7d"]),
    .rule constantDeclaration .shown
      (sequence [maybe modifiers, playing .type plainType, declaratorList, ";"]) ]

/-- The rules of declared variables and their values. -/
def declarators : List (Parsing.Definition Kind Role) :=
  [ .rule declaratorList .hidden (commaSeparated (playing .declarator variableDeclarator)),
    .rule variableDeclarator .shown
      (sequence [declaratorName, maybe (sequence ["=", playing .value initializer])]),
    .rule declaratorName .hidden
      (sequence [
        playing .name (oneOf [identifier, contextualName, underscorePattern]),
        playing .dimensions (maybe dimensions)]),
    .rule initializer .spliced (oneOf [expression, arrayInitializer]),
    .rule arrayInitializer .shown
      (sequence ["\x7b", maybe (commaSeparated initializer), maybe ",", "\x7d"]) ]

end SuiteLint.Java.Grammar
