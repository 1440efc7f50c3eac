import SuiteLint.Java.Grammar
import SuiteLint.Java.Reader

/-!
# Source files

A text is parsed with the table of the grammar. A text with faults gives a file as well: everything
that can be read is kept, and the file is marked as faulty.
-/

namespace SuiteLint.Java

/-- The parse table of the language. -/
def table : Parsing.Table Kind Role := .ofGrammar grammar

namespace SourceFile

/-- The file without declarations. -/
def empty : SourceFile :=
  { package := "", staticImports := [], classes := [], hasErrors := false }

/-- Reads source text. -/
def parse (source : String) : SourceFile :=
  let text := Parsing.SourceText.ofString Letters.alphabet source
  match table.rootNode text with
  | some (root, hasErrors) => ofNode text root hasErrors
  | none => { empty with hasErrors := true }

end SourceFile

end SuiteLint.Java
