import SuiteLint.Java.Grammar.Kind

/-!
# Ranks

How tightly the parts of an expression hold together, and what the rules of the language share.
-/

namespace SuiteLint.Java.Grammar

/-- A rule of the language. -/
abbrev GrammarRule : Type := Parsing.Rule (Parsing.Atom Kind) Kind Role

namespace Rank

def assignment : Int := 1
def declaration : Int := 2
def ternary : Int := 3
def or : Int := 4
def and : Int := 5
def bitOr : Int := 6
def bitXor : Int := 7
def bitAnd : Int := 8
def equality : Int := 9
def relation : Int := 10
def shift : Int := 11
def sum : Int := 12
def product : Int := 13
def cast : Int := 14
def unary : Int := 15

end Rank

namespace Weight

/-- Of two readings, one with type arguments is preferred. -/
def genericType : Int := 10

/-- A class literal is preferred to anything else. -/
def classLiteral : Int := 17

end Weight

/-- A name without dots. -/
def simpleName : GrammarRule := .oneOf [Kind.identifier, Kind.contextualName]

/-- Rules with commas between them. -/
def commaSeparated (r : GrammarRule) : GrammarRule := r.separated ","

end SuiteLint.Java.Grammar
