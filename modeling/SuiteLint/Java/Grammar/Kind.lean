import SuiteLint.Parsing.Rule

/-!
# Kinds of nodes

What the nodes of a syntax tree can be, and the roles that they play in the nodes around them. A
kind whose name starts with `any` stands for one of several others.
-/

namespace SuiteLint.Java

/-- The kinds of nodes. -/
inductive Kind where
  -- Whole texts.
  | program | topStatement
  -- Literals.
  | literal | decimalInteger | hexInteger | octalInteger | binaryInteger | decimalFraction
  | hexFraction | trueLiteral | falseLiteral | characterLiteral | stringLiteral | quotedString
  | textBlock | stringFragment | textBlockFragment | interpolation | textBlockEscape
  | escapeSequence | nullLiteral
  -- Expressions.
  | expression | castExpression | assignment | binaryExpression | instanceofExpression
  | lambdaExpression | inferredParameters | ternary | unaryExpression | updateExpression
  | primaryExpression | arrayCreation | sizedDimension | parenthesizedExpression | classLiteral
  | objectCreation | unqualifiedCreation | fieldAccess | templateExpression | arrayAccess
  | methodInvocation | argumentList | methodReference | typeArguments | wildcard
  | wildcardBounds | dimensions
  -- Switches and patterns.
  | switchExpression | switchBlock | switchGroup | switchRule | switchLabel | pattern
  | typePattern | recordPattern | recordPatternBody | recordPatternComponent | underscorePattern
  | caseGuard
  -- Statements.
  | statement | block | expressionStatement | labeledStatement | assertStatement | doStatement
  | breakStatement | continueStatement | returnStatement | yieldStatement
  | synchronizedStatement | throwStatement | tryStatement | catchClause | catchParameter
  | catchType | finallyClause | tryWithResources | resourceSpecification | resource
  | ifStatement | whileStatement | forStatement | enhancedFor
  -- Annotations.
  | anyMarker | bareMarker | marker | markerArguments | elementPair | elementValue
  | elementArray
  -- Modules, packages and imports.
  | declaration | moduleDeclaration | moduleBody | moduleDirective | requiresDirective
  | requiresModifier | exportsDirective | opensDirective | usesDirective | providesDirective
  | packageDeclaration | importDeclaration | asterisk
  -- Types and their members.
  | enumDeclaration | enumBody | enumBodyDeclarations | enumConstant | classDeclaration
  | modifiers | typeParameters | typeParameter | typeBound | superclass | superInterfaces
  | typeList | permits | classBody | member | staticInitializer | constructorDeclaration
  | constructorHead | constructorBody | constructorInvocation | anyName | scopedIdentifier
  | fieldDeclaration | recordDeclaration
  -- Annotation types and interfaces.
  | markerTypeDeclaration | markerTypeBody | markerElement | defaultValue | interfaceDeclaration
  | extendsInterfaces | interfaceBody | constantDeclaration
  -- Variables.
  | declaratorList | variableDeclarator | declaratorName | initializer | arrayInitializer
  -- How types are written.
  | anyType | plainType | simpleType | markedType | scopedTypeIdentifier | genericType
  | arrayType | integralType | floatingPointType | booleanType | voidType
  -- Methods.
  | methodHeader | methodDeclarator | formalParameters | formalParameter | receiverParameter
  | spreadParameter | throws | localVariableDeclaration | methodDeclaration | compactConstructor
  -- Names and comments.
  | contextualName | thisReference | superReference | identifier | lineComment | blockComment
  | typeIdentifier
deriving Repr, DecidableEq, Inhabited

/-- The roles of nodes. -/
inductive Role where
  | alternative | arguments | array | body | condition | consequence | target | declarator
  | dimensions | element | field | index | start | interfaces | key | left | modifiers
  | moduleName | moduleNames | name | object | operand | operator | packageName | parameters
  | pattern | permits | provided | provider | resources | right | scope | superclass | template
  | processor | type | typeArguments | typeParameters | update | value
deriving Repr, DecidableEq, Inhabited

instance : Parsing.Numbered Kind := ⟨Kind.ctorIdx⟩

instance : Parsing.Numbered Role := ⟨Role.ctorIdx⟩

namespace Kind

/-- Whether nodes of a kind are comments. -/
def isComment (k : Kind) : Bool := k == lineComment || k == blockComment

/-- Whether nodes of a kind are number literals. -/
def isNumber (k : Kind) : Bool :=
  [decimalInteger, hexInteger, octalInteger, binaryInteger, decimalFraction, hexFraction].contains k

end Kind

end SuiteLint.Java
