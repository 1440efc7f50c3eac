import SuiteLint.Text.Split

/-!
# Descriptors

A descriptor is the compact form of a type: brackets for array dimensions, then a letter for a
primitive type or `L`, the name with slashes, and a semicolon.
-/

namespace SuiteLint.ClassFile

/-- The primitive type with a letter. -/
def primitive? : List Char → Option String
  | ['B'] => some "byte"
  | ['C'] => some "char"
  | ['D'] => some "double"
  | ['F'] => some "float"
  | ['I'] => some "int"
  | ['J'] => some "long"
  | ['S'] => some "short"
  | ['Z'] => some "boolean"
  | ['V'] => some "void"
  | _ => none

/-- The name between `L` and a semicolon; a text of another form is left as it is. -/
def internalName (cs : List Char) : List Char :=
  match cs with
  | 'L' :: rest => (Text.dropBack? [';'] rest).getD cs
  | _ => cs

/-- A name with dots for the slashes and dollars between its segments. -/
def dotted (cs : List Char) : List Char :=
  cs.map fun c => if c == '/' || c == '$' then '.' else c

/-- The type that a descriptor without dimensions stands for. -/
def elementType (cs : List Char) : String :=
  match primitive? cs with
  | some name => name
  | none => String.ofList (dotted (internalName cs))

/-- The type that a descriptor stands for, as it is written in source. -/
def descriptorType (descriptor : String) : String :=
  let cs := descriptor.toList
  let dimensions := (cs.takeWhile (· == '[')).length
  elementType (cs.dropWhile (· == '[')) ++ String.join (List.replicate dimensions "[]")

/-- The simple name of the annotation type that a descriptor stands for. -/
def annotationName (descriptor : String) : String :=
  String.ofList <|
    Text.lastPieceChars (fun c => c == '/' || c == '$') (internalName descriptor.toList)

end SuiteLint.ClassFile
