import SuiteLint.Text.Split

/-!
# Names of the test framework
-/

namespace SuiteLint.JUnit

/-- The annotations that make a method a test case. -/
def testMarkers : List String :=
  ["Test", "ParameterizedTest", "RepeatedTest", "TestFactory", "TestTemplate"]

/-- The interfaces that make a class an extension of the framework. -/
def extensionInterfaces : List String :=
  [ "Extension", "BeforeAllCallback", "AfterAllCallback", "BeforeEachCallback",
    "AfterEachCallback", "BeforeTestExecutionCallback", "AfterTestExecutionCallback",
    "ExecutionCondition", "ParameterResolver", "TestInstanceFactory",
    "TestInstancePostProcessor", "TestInstancePreDestroyCallback",
    "TestExecutionExceptionHandler", "LifecycleMethodExecutionExceptionHandler",
    "TestTemplateInvocationContextProvider", "InvocationInterceptor", "TestWatcher" ]

/-- Whether an interface, by its simple or qualified name, makes a class an extension. -/
def isExtensionInterface (name : String) : Bool :=
  extensionInterfaces.contains (Text.lastPiece (fun c => c == '.' || c == '/' || c == '$') name)

/-- The annotation that suppresses warnings. -/
def suppressMarker : String := "SuppressWarnings"

end SuiteLint.JUnit
