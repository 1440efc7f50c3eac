import SuiteLint.Rule.Basic

/-!
# Rules about the structure of classes
-/

namespace SuiteLint.Rule

/-- A test class extends only allowed classes, unless it is an extension of the test framework. -/
def inheritanceInTests : Rule where
  id := "RuleInheritanceInTests"
  description := "test classes do not extend other classes"
  check := .ofClass fun context c =>
    let parent := c.characteristics.parent
    if c.characteristics.isExtension || parent == "" || context.allowsParent parent then []
    else [(none, s!"test class extends '{parent}'")]

/-! ## Mocks -/

/-- The type whose methods make and stub mocks. -/
def mockOwner : String := "Mockito"

/-- The methods that make or stub a mock. -/
def mockMethods : List String :=
  ["mock", "spy", "when", "doReturn", "doThrow", "doAnswer", "doNothing", "doCallRealMethod",
    "mockStatic", "mockConstruction"]

/-- Whether a call makes or stubs a mock. -/
def isMockery (scope : Scope) (call : Invocation) : Bool :=
  mockMethods.contains call.method && Assertion.isCalledOn scope mockOwner call

/-- A case makes and stubs no mocks. -/
def testCaseContainsMockery : Rule where
  id := "RuleTestCaseContainsMockery"
  description := "test cases do not create or stub Mockito mocks"
  check := .ofCase fun _ k =>
    if k.invocations.any (isMockery k.scope) then ["the test case contains mockery"] else []

/-! ## Places -/

/-- The directory of the sources of a package. -/
def sourceDirectory (package : String) : Path :=
  let base := Path.mk "src/test/java"
  if package == "" then base else (Text.split (· == '.') package).foldl Path.join base

/-- Whether a path ends with the components of another one. An absolute end must be the whole
path. -/
def endsWithPath (path ending : Path) : Bool :=
  (Text.dropBack? ending.components path.components).isSome

/-- A source of a test class lies in the directory of its package. -/
def correctTestCaseDirectory : Rule where
  id := "RuleCorrectTestCaseDirectory"
  description := "test sources live under src/test/java in their package directory"
  check := .ofClass fun _ c =>
    let directory := sourceDirectory c.package
    let shown := Text.replaceChar '\\' '/' directory.text
    if c.path.extension? != some "java"
        || endsWithPath c.path (directory.join (c.name ++ ".java")) then []
    else
      [(none, s!"test class is not placed in {shown}")]

/-- The annotation that fields of test classes do without. -/
def nullable : String := "Nullable"

/-- No field of a test class may be null. -/
def nullableAnnotation : Rule where
  id := "RuleNullableAnnotation"
  description := "test class fields are not @Nullable"
  check := .ofClass fun _ c =>
    (c.fields.filter fun f => f.hasAnnotation nullable).map fun f =>
      (none, s!"field '{f.name}' is annotated @Nullable")

end SuiteLint.Rule
