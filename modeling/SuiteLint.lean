import SuiteLint.Analysis
import SuiteLint.Assertion.Basic
import SuiteLint.Assertion.Hamcrest
import SuiteLint.Assertion.JUnit
import SuiteLint.Assertion.Recognition
import SuiteLint.ClassFile.Annotations
import SuiteLint.ClassFile.Bytes
import SuiteLint.ClassFile.CompiledClass
import SuiteLint.ClassFile.ConstantPool
import SuiteLint.ClassFile.Descriptor
import SuiteLint.CommandLine.Command
import SuiteLint.CommandLine.Run
import SuiteLint.CommandLine.Sites
import SuiteLint.CommandLine.Usage
import SuiteLint.Complaint
import SuiteLint.Config.Basic
import SuiteLint.Config.Loader
import SuiteLint.Config.Validation
import SuiteLint.Digest
import SuiteLint.Evaluation
import SuiteLint.Failure
import SuiteLint.FileSystem.AtomicWrite
import SuiteLint.FileSystem.Basic
import SuiteLint.FileSystem.Change
import SuiteLint.FileSystem.Lock
import SuiteLint.FileSystem.Scan
import SuiteLint.Glob
import SuiteLint.Ingest
import SuiteLint.JUnit
import SuiteLint.Java.Grammar
import SuiteLint.Java.Grammar.Declarations
import SuiteLint.Java.Grammar.Expressions
import SuiteLint.Java.Grammar.Kind
import SuiteLint.Java.Grammar.Letters
import SuiteLint.Java.Grammar.Literals
import SuiteLint.Java.Grammar.Rank
import SuiteLint.Java.Grammar.Statements
import SuiteLint.Java.Grammar.Tokens
import SuiteLint.Java.Grammar.Types
import SuiteLint.Java.Projection
import SuiteLint.Java.Reader
import SuiteLint.Java.SourceFile
import SuiteLint.Java.StringLiteral
import SuiteLint.Java.TestClasses
import SuiteLint.Java.Tree
import SuiteLint.Json
import SuiteLint.KeyedList
import SuiteLint.Main
import SuiteLint.Model.Cache
import SuiteLint.Model.Origin
import SuiteLint.Model.Source
import SuiteLint.Name.CamelCase
import SuiteLint.Name.Spam
import SuiteLint.Name.Tense
import SuiteLint.Name.Words
import SuiteLint.Options
import SuiteLint.OrderedSet
import SuiteLint.Parsing.Automaton
import SuiteLint.Parsing.IndexSet
import SuiteLint.Parsing.Item
import SuiteLint.Parsing.Merging
import SuiteLint.Parsing.Node
import SuiteLint.Parsing.Parse
import SuiteLint.Parsing.Pattern
import SuiteLint.Parsing.Phrase
import SuiteLint.Parsing.Recovery
import SuiteLint.Parsing.Rule
import SuiteLint.Parsing.Run
import SuiteLint.Parsing.Scanning
import SuiteLint.Parsing.SourceText
import SuiteLint.Parsing.Stack
import SuiteLint.Parsing.Subtree
import SuiteLint.Parsing.Table
import SuiteLint.Parsing.TokenAutomaton
import SuiteLint.Parsing.TokenOverlap
import SuiteLint.Parsing.Vocabulary
import SuiteLint.Path
import SuiteLint.Pos.Bundled
import SuiteLint.Pos.Lexicon
import SuiteLint.Pos.PresentSimple
import SuiteLint.Pos.Tag
import SuiteLint.Proofs.ClassFile.Bytes
import SuiteLint.Proofs.ClassFile.Layout
import SuiteLint.Proofs.ClassFile.RoundTrip
import SuiteLint.Proofs.Complaint
import SuiteLint.Proofs.Evaluation
import SuiteLint.Proofs.FileSystem.Basic
import SuiteLint.Proofs.FileSystem.Change
import SuiteLint.Proofs.Model.CacheFiles
import SuiteLint.Proofs.Model.CacheStep
import SuiteLint.Proofs.Model.Interleaving
import SuiteLint.Proofs.Path
import SuiteLint.Proofs.Suppression
import SuiteLint.Proofs.Text.Utf8
import SuiteLint.Report.Basic
import SuiteLint.Report.Document
import SuiteLint.Report.Format
import SuiteLint.Report.Text
import SuiteLint.Rule.Asserting
import SuiteLint.Rule.Basic
import SuiteLint.Rule.Naming
import SuiteLint.Rule.Registry
import SuiteLint.Rule.Structure
import SuiteLint.Suite.Expr
import SuiteLint.Suite.Merge
import SuiteLint.Suite.Scope
import SuiteLint.Suite.TestCase
import SuiteLint.Suite.TestClass
import SuiteLint.Suppression
import SuiteLint.Text.Alphabetic
import SuiteLint.Text.Blank
import SuiteLint.Text.Casing
import SuiteLint.Text.CharClass
import SuiteLint.Text.Hex
import SuiteLint.Text.Identifier
import SuiteLint.Text.Lowercase
import SuiteLint.Text.Numeric
import SuiteLint.Text.Run
import SuiteLint.Text.Split
import SuiteLint.Text.Uppercase
import SuiteLint.Text.Utf8
import SuiteLint.Toml.Document
import SuiteLint.Toml.Lexeme
import SuiteLint.Toml.Value
import SuiteLint.Url
import SuiteLint.Proofs.ClassFile.Truncation
import SuiteLint.Proofs.KeyedList
import SuiteLint.Proofs.Suite.Merge
import SuiteLint.Proofs.Suite.MergeOrder
import SuiteLint.Proofs.Model.Undisturbed
import SuiteLint.Proofs.OrderedSet
import SuiteLint.Proofs.Sorting
import SuiteLint.Proofs.Filtering
import SuiteLint.Proofs.Suite.Building
import SuiteLint.Proofs.Name.Words
import SuiteLint.Proofs.Pos.PresentSimple
import SuiteLint.Proofs.Model.Sequence
import SuiteLint.Proofs.Text.Split
import SuiteLint.Proofs.Suite.Folding
import SuiteLint.Proofs.Influence
import SuiteLint.Proofs.Ingest
import SuiteLint.Proofs.Assertion.Spelling
import SuiteLint.Proofs.Assertion.LineHitter
import SuiteLint.Proofs.Name.Boundaries
import SuiteLint.Proofs.Text.Utf8Exact
import SuiteLint.Proofs.Pos.Lexicon
import SuiteLint.Proofs.Assertion.Tolerance
import SuiteLint.Proofs.Assertion.Matchers
import SuiteLint.Proofs.Pos.Tagging
import SuiteLint.Proofs.Name.Joining
import SuiteLint.Proofs.Name.Tense
import SuiteLint.Proofs.Name.CamelCase
import SuiteLint.Proofs.Java.Concatenation
import SuiteLint.Proofs.FileSystem.AtomicWrite
import SuiteLint.Proofs.Java.Calls
import SuiteLint.Proofs.Java.StringLiteral
import SuiteLint.Proofs.Json.Grammar
import SuiteLint.Proofs.Json.Reading
import SuiteLint.Proofs.Json.Printing
import SuiteLint.Proofs.Report.Document
import SuiteLint.Proofs.Name.Spam
import SuiteLint.Proofs.ClassFile.Cursor
import SuiteLint.Proofs.ClassFile.Progress
import SuiteLint.Proofs.ClassFile.Descriptor
import SuiteLint.Proofs.Text.Escapes
import SuiteLint.Proofs.Report.Colors
