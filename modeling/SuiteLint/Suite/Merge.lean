import SuiteLint.ClassFile.CompiledClass
import SuiteLint.JUnit
import SuiteLint.KeyedList

/-!
# Joining sources and compiled classes

A class may be known from its source, from its class file, or from both. Both views are joined by
the qualified name. A compiled class without a source is a test class if it looks like one, and a
production class otherwise.
-/

namespace SuiteLint

namespace ClassFile.CompiledClass

/-- Whether a class extends the test framework. -/
def isExtension (c : CompiledClass) : Bool := c.interfaces.any JUnit.isExtensionInterface

/-- The ends of names by which test classes are known. -/
def testSuffixes : List String := ["Test", "Tests", "IT"]

/-- Whether a class has a test method, extends the test framework, or is named like a test. -/
def looksLikeTest (c : CompiledClass) : Bool :=
  (c.methods.any fun m => m.annotations.any fun a => JUnit.testMarkers.contains a)
    || c.isExtension
    || testSuffixes.any fun suffix => Text.endsWith suffix c.simpleName

/-- Whether a method was written by hand: initializers and generated methods are not. -/
def isWritten (m : CompiledMethod) : Bool := !m.isSynthetic && !Text.startsWith "<" m.name

/-- The place of a class among other types. The root of all classes does not count as a parent. -/
def characteristics (c : CompiledClass) : Characteristics :=
  { isExtension := c.isExtension
    parent := (c.superName.filter (· != "java.lang.Object")).getD ""
    methods := (c.methods.filter isWritten).length
    interfaces := c.interfaces }

/-- The test class that is known from a class file alone; it has no cases. -/
def toTestClass (c : CompiledClass) : TestClass :=
  (((TestClass.new c.simpleName c.path .compiled).withPackage c.package).withFields
    c.fields).withCharacteristics c.characteristics

/-- The production class that a class file describes. -/
def toProductionClass (c : CompiledClass) : ProductionClass :=
  { qualifiedName := c.qualifiedName, name := c.simpleName, path := c.path }

end ClassFile.CompiledClass

open ClassFile (CompiledClass)

/-- Compiled classes by their qualified names; of several with one name the last one counts. -/
def compiledByName (compiled : List CompiledClass) : List (String × CompiledClass) :=
  KeyedList.ofList (compiled.map fun c => (c.qualifiedName, c))

/-- Joins sources with their compiled views. A compiled view goes to the first source of its name.
Returns also the compiled views that no source took. -/
def joinSources (known : List (String × CompiledClass)) :
    List TestClass → List TestClass × List (String × CompiledClass)
  | [] => ([], known)
  | c :: rest =>
    match KeyedList.get? c.qualifiedName known with
    | some compiled =>
      let (joined, left) := joinSources (KeyedList.erase c.qualifiedName known) rest
      (c.mergeCompiled compiled.toTestClass :: joined, left)
    | none =>
      let (joined, left) := joinSources known rest
      (c :: joined, left)

/-- The order of classes: by path, then by name. -/
def cmpPlaced (path path' : Path) (name name' : String) : Ordering :=
  (path.cmp path').then (compare name name')

/-- Whether a test class may stand before another one. -/
def TestClass.le (a b : TestClass) : Bool := cmpPlaced a.path b.path a.name b.name != .gt

/-- Whether a production class may stand before another one. -/
def ProductionClass.le (a b : ProductionClass) : Bool :=
  cmpPlaced a.path b.path a.name b.name != .gt

/-- The project of joined classes and the compiled classes that were left over. -/
def Project.assemble (joined : List TestClass) (left : List CompiledClass) : Project :=
  let tests := left.filter CompiledClass.looksLikeTest
  let others := left.filter fun c => !c.looksLikeTest
  { testClasses := (joined ++ tests.map CompiledClass.toTestClass).mergeSort TestClass.le
    productionClasses := (others.map CompiledClass.toProductionClass).mergeSort ProductionClass.le }

/-- The project of sources and compiled classes. -/
def Project.merge (sources : List TestClass) (compiled : List CompiledClass) : Project :=
  let (joined, left) := joinSources (compiledByName compiled) sources
  Project.assemble joined (left.map Prod.snd)

end SuiteLint
