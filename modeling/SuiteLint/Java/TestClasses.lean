import SuiteLint.JUnit
import SuiteLint.Java.Projection
import SuiteLint.Java.SourceFile
import SuiteLint.Suite.TestClass

/-!
# Test classes of a source file

Every class, enum and record at the top of a file becomes a test class. Its cases are the methods
with a test annotation, its constants the final fields with a value.
-/

namespace SuiteLint.Java

/-! ## Suppressions -/

/-- The strings in a value of an annotation, looked for in braces at any depth. -/
def ElementValue.strings : ElementValue → List String
  | string raw => [StringLiteral.value raw]
  | array values => values.attach.flatMap fun ⟨v, _⟩ => v.strings
  | other => []

/-- The strings in an argument of an annotation: one without key, or with the key `value`. -/
def MarkerArgument.strings (a : MarkerArgument) : List String :=
  match a.key with
  | none => a.value.strings
  | some key => if key == "value" then a.value.strings else []

/-- The suppressions that modifiers declare. -/
def Modifiers.suppressions (m : Modifiers) : List String :=
  (m.markers.filter fun marker => marker.name == JUnit.suppressMarker).flatMap fun marker =>
    marker.arguments.flatMap MarkerArgument.strings

/-- Whether modifiers make a method a test case. -/
def Modifiers.areOfTest (m : Modifiers) : Bool :=
  m.markers.any fun marker => JUnit.testMarkers.contains marker.name

/-! ## Members -/

namespace ClassDeclaration

/-- The fields of a class, declaration by declaration. -/
def fieldDeclarations (c : ClassDeclaration) : List FieldDeclaration :=
  c.members.filterMap fun
    | .field f => some f
    | _ => none

/-- The methods of a class. -/
def methods (c : ClassDeclaration) : List MethodDeclaration :=
  c.members.filterMap fun
    | .method m => some m
    | _ => none

/-- The constants that a declaration of final fields makes known. -/
def addConstants (scope : Scope) (f : FieldDeclaration) : Scope :=
  if f.modifiers.keywords.contains "final" then
    f.declarators.foldl
      (fun scope d =>
        match d.value with
        | some value => scope.withConstant d.name value.toExpr
        | none => scope)
      scope
  else scope

/-- What a class makes known to its methods. -/
def scope (c : ClassDeclaration) (staticImports : List String) : Scope :=
  c.fieldDeclarations.foldl addConstants
    { className := c.name, constants := [], staticImports }

/-- The fields of a declaration. -/
def fieldsOf (f : FieldDeclaration) : List Field :=
  f.declarators.map fun d =>
    { name := d.name
      type := f.type
      isStatic := f.modifiers.keywords.contains "static"
      annotations := f.modifiers.markers.map Marker.name }

/-- The test case of a method, if it is one. -/
def testCase? (scope : Scope) (m : MethodDeclaration) : Option TestCase :=
  if m.modifiers.areOfTest then
    let case := (TestCase.named m.name).withSuppressed m.modifiers.suppressions
    some <| { case with line := some m.line }.withBody (Tree.callsOf m.body.toList) scope
  else none

/-- A type without its type arguments and the blanks around it. -/
def withoutArguments (type : String) : String := Text.trim (Text.firstPiece '<' type)

/-- What is known of the place of a class among other types. -/
def characteristics (c : ClassDeclaration) : Characteristics :=
  let interfaces := c.interfaces.map withoutArguments
  { isExtension := interfaces.any JUnit.isExtensionInterface
    parent := (c.superclass.map withoutArguments).getD ""
    methods := c.methods.length
    interfaces }

/-- The test class of a class of a file. -/
def toTestClass (c : ClassDeclaration) (package : String) (staticImports : List String)
    (path : Path) : TestClass :=
  (TestClass.new c.name path .source)
    |>.withPackage package
    |>.withLine c.line
    |>.withSuppressed c.modifiers.suppressions
    |>.withFields (c.fieldDeclarations.flatMap fieldsOf)
    |>.withCases (c.methods.filterMap (testCase? (c.scope staticImports)))
    |>.withCharacteristics c.characteristics

end ClassDeclaration

/-- The test classes of a source file. -/
def SourceFile.testClasses (file : SourceFile) (path : Path) : List TestClass :=
  file.classes.map fun c => c.toTestClass file.package file.staticImports path

end SuiteLint.Java
