import SuiteLint.Java.Grammar.Declarations
import SuiteLint.Java.Grammar.Expressions
import SuiteLint.Java.Grammar.Literals
import SuiteLint.Java.Grammar.Statements
import SuiteLint.Java.Grammar.Types

/-!
# The grammar of the language

A text is a row of statements and methods; classes are statements. The order of the rules matters:
of two tokens with one text, or two readings of equal weight, the one defined first is preferred.
-/

namespace SuiteLint.Java

namespace Grammar

open Kind
open SuiteLint.Parsing.Rule (oneOf repeated)

/-- The rules of whole texts. -/
def texts : List (Parsing.Definition Kind Role) :=
  [ .rule program .shown (repeated topStatement),
    .rule topStatement .hidden (oneOf [statement, methodDeclaration]) ]

end Grammar

/-- The grammar of the language. -/
def grammar : Parsing.Grammar Kind Role :=
  { alphabet := Letters.alphabet
    definitions :=
      Grammar.texts ++ Grammar.literals ++ Grammar.expressions ++ Grammar.expressionParts
        ++ Grammar.switches ++ Grammar.statements ++ Grammar.markers ++ Grammar.units
        ++ Grammar.types ++ Grammar.interfaces ++ Grammar.declarators ++ Grammar.typeNames
        ++ Grammar.methods ++ Grammar.names
    blanks := Letters.blanks
    extras := [.lineComment, .blockComment]
    word := .identifier }

end SuiteLint.Java
