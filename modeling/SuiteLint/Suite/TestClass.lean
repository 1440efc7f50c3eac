import SuiteLint.Path
import SuiteLint.Suite.TestCase

/-!
# Test classes

A test class gathers what is known of a class from its source, from its compiled form, or from both.
Its suppressions are copied to its cases, whichever are added first.
-/

namespace SuiteLint

/-- A field of a class. -/
structure Field where
  name : String
  type : String
  isStatic : Bool := false
  /-- The simple names of its annotations. -/
  annotations : List String := []
deriving Repr, DecidableEq, Inhabited

/-- Whether a field has an annotation with a simple name. -/
def Field.hasAnnotation (f : Field) (name : String) : Bool := f.annotations.contains name

/-- What is known of the place of a class among other types. -/
structure Characteristics where
  isExtension : Bool := false
  /-- The super class, empty if there is none. -/
  parent : String := ""
  /-- The number of methods. -/
  methods : Nat := 0
  interfaces : List String := []
deriving Repr, DecidableEq, Inhabited

/-- Where the description of a class comes from. -/
inductive Origin where
  | source
  | compiled
  /-- Source and compiled form of one class. -/
  | merged
  /-- Made up. -/
  | synthetic
deriving Repr, DecidableEq, Inhabited

/-- A class with test cases. -/
structure TestClass where
  name : String
  /-- The package, empty for the unnamed one. -/
  package : String := ""
  path : Path
  line : Option Nat := none
  cases : List TestCase := []
  fields : List Field := []
  suppressed : OrderedSet String := ∅
  characteristics : Characteristics := {}
  origin : Origin
deriving Inhabited

namespace TestClass

/-- A class of which only name, place and origin are known. -/
def new (name : String) (path : Path) (origin : Origin) : TestClass := { name, path, origin }

/-- A made-up class in the place of a test source. -/
def fakeNamed (name : String) : TestClass :=
  new name ((Path.mk "src/test/java").join (name ++ ".java")) .synthetic

/-- The made-up class with the usual name. -/
def fake : TestClass := fakeNamed "FakeClassTest"

/-- The name with its package. -/
def qualifiedName (c : TestClass) : String :=
  if c.package == "" then c.name else c.package ++ "." ++ c.name

/-! ## Building -/

/-- Sets the package. -/
def withPackage (c : TestClass) (package : String) : TestClass := { c with package }

/-- Sets the line. -/
def withLine (c : TestClass) (line : Nat) : TestClass := { c with line := some line }

/-- Adds cases; they inherit the suppressions of the class. -/
def withCases (c : TestClass) (cases : List TestCase) : TestClass :=
  { c with cases := c.cases ++ cases.map fun k => k.inherit c.suppressed }

/-- Adds fields. -/
def withFields (c : TestClass) (fields : List Field) : TestClass :=
  { c with fields := c.fields ++ fields }

/-- Adds suppressions of the class, which all its cases inherit. -/
def withSuppressed (c : TestClass) (values : List String) : TestClass :=
  let suppressed := c.suppressed.insertAll values
  { c with suppressed := suppressed, cases := c.cases.map fun k => k.inherit suppressed }

/-- Sets the characteristics. -/
def withCharacteristics (c : TestClass) (characteristics : Characteristics) : TestClass :=
  { c with characteristics }

/-- Sets the origin. -/
def withOrigin (c : TestClass) (origin : Origin) : TestClass := { c with origin }

/-- Joins the source view of a class with its compiled view: characteristics and, if there are any,
fields come from the compiled view. -/
def mergeCompiled (c compiled : TestClass) : TestClass :=
  { c with
    fields := if compiled.fields.isEmpty then c.fields else compiled.fields
    characteristics := compiled.characteristics
    origin := .merged }

/-- A step in which a class is built. -/
inductive Edit where
  | package (package : String)
  | line (line : Nat)
  | cases (cases : List TestCase)
  | fields (fields : List Field)
  | suppressed (values : List String)
  | characteristics (characteristics : Characteristics)
  | origin (origin : Origin)
  | mergeCompiled (compiled : TestClass)
deriving Inhabited

/-- The class after a step. -/
def edit (c : TestClass) : Edit → TestClass
  | .package package => c.withPackage package
  | .line line => c.withLine line
  | .cases cases => c.withCases cases
  | .fields fields => c.withFields fields
  | .suppressed values => c.withSuppressed values
  | .characteristics characteristics => c.withCharacteristics characteristics
  | .origin origin => c.withOrigin origin
  | .mergeCompiled compiled => c.mergeCompiled compiled

/-- The class after a sequence of steps. -/
def editAll (c : TestClass) (edits : List Edit) : TestClass := edits.foldl edit c

/-- The class before the first step and after each one. -/
def states (c : TestClass) : List Edit → List TestClass
  | [] => [c]
  | e :: rest => c :: (c.edit e).states rest

end TestClass

/-- A compiled class that is no test. -/
structure ProductionClass where
  qualifiedName : String
  name : String
  path : Path
deriving Repr, DecidableEq, Inhabited

/-- Everything that is analyzed together. -/
structure Project where
  testClasses : List TestClass
  productionClasses : List ProductionClass
deriving Inhabited

/-- Whether there is nothing to analyze. -/
def Project.isEmpty (p : Project) : Bool := p.testClasses.isEmpty && p.productionClasses.isEmpty

end SuiteLint
