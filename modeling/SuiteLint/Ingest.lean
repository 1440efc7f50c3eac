import SuiteLint.FileSystem.Scan
import SuiteLint.Java.TestClasses
import SuiteLint.Report.Basic
import SuiteLint.Suite.Merge

/-!
# Reading a project

A project is read from a directory of sources and a directory of class files. A file that cannot be
read or understood is left out and named in a diagnostic; it does not keep other files out.
-/

namespace SuiteLint

open ClassFile (CompiledClass)

/-- What was read: the project, and the files with problems. -/
structure Ingested where
  project : Project
  diagnostics : List Diagnostic
deriving Inhabited

/-- A file that was looked at, with what came of it. -/
structure Examined (α : Type) where
  path : Path
  result : Except Failure α

/-! ## Sources -/

/-- The classes of a source file, and whether all of it was understood. -/
structure SourceClasses where
  hasErrors : Bool
  classes : List TestClass

/-- The diagnostic of a source file. -/
def Examined.sourceDiagnostic? (file : Examined SourceClasses) : Option Diagnostic :=
  match file.result with
  | .ok source => if source.hasErrors then some ⟨file.path, "syntax errors"⟩ else none
  | .error failure => some ⟨file.path, failure.message⟩

/-- The classes of a source file. -/
def Examined.sourceClasses (file : Examined SourceClasses) : List TestClass :=
  match file.result with
  | .ok source => source.classes
  | .error _ => []

/-! ## Class files -/

/-- The diagnostic of a class file. -/
def Examined.classDiagnostic? (file : Examined CompiledClass) : Option Diagnostic :=
  match file.result with
  | .ok _ => none
  | .error failure => some ⟨file.path, failure.message⟩

/-- The class of a class file, if it declares a type of its own. -/
def Examined.compiledClass? (file : Examined CompiledClass) : Option CompiledClass :=
  match file.result with
  | .ok c => if c.isTypeDeclaration && !c.isAuxiliary then some c else none
  | .error _ => none

/-! ## Projects -/

/-- What files give together. -/
def Ingested.ofFiles (sources : List (Examined SourceClasses))
    (classes : List (Examined CompiledClass)) : Ingested :=
  { project := Project.merge (sources.flatMap Examined.sourceClasses)
      (classes.filterMap Examined.compiledClass?)
    diagnostics := Diagnostic.arrange
      (sources.filterMap Examined.sourceDiagnostic?
        ++ classes.filterMap Examined.classDiagnostic?) }

/-- Reads a source file. -/
def examineSource (fs : FileSystem) (path : Path) : Examined SourceClasses :=
  match fs.readText path with
  | .error _ => { path, result := .error (.fileRead path) }
  | .ok text =>
    let file := Java.SourceFile.parse text
    { path, result := .ok { hasErrors := file.hasErrors, classes := file.testClasses path } }

/-- Reads a class file. -/
def examineClass (fs : FileSystem) (path : Path) : Examined CompiledClass :=
  match fs.read path with
  | .error _ => { path, result := .error (.fileRead path) }
  | .ok bytes =>
    match ClassFile.decode path bytes with
    | .ok c => { path, result := .ok c }
    | .error fault => { path, result := .error (.parse path fault.message) }

/-- The path of a directory from the root. -/
def absoluteRoot (fs : FileSystem) (root : Path) : Except Failure Path :=
  match fs.canonicalize root with
  | .ok path => .ok path
  | .error _ => .error (.rootNotFound root)

/-- Reads a project from the directory of its sources and that of its class files. -/
def ingest (fs : FileSystem) (sources classes : Path) (exclude : List String) :
    Except Failure Ingested := do
  let sources ← absoluteRoot fs sources
  let classes ← absoluteRoot fs classes
  let sourceFiles ← fs.scan (← FileFilter.new "java" exclude) sources
  let classFiles ← fs.scan (← FileFilter.new "class" exclude) classes
  return Ingested.ofFiles (sourceFiles.map (examineSource fs)) (classFiles.map (examineClass fs))

end SuiteLint
