import SuiteLint.Config.Validation

/-!
# Loading configurations

The configuration is read from a file that is named, or from the one with the usual name in the
working directory. Without a file everything has its usual value.
-/

namespace SuiteLint.Config

/-- Where configuration files are found. -/
structure Store where
  /-- The text of a file, or why there is none. -/
  read : Path → Except String String
  pathExists : Path → Bool
  /-- The working directory, if it is known. -/
  workingDirectory : Option Path

/-- The wording for a document that is not a configuration. -/
def documentError : String := "TOML parse error"

/-- Reads the configuration from a document. -/
def ofText (path : Path) (document : String) : Except Failure Config :=
  match ofDocument? document with
  | none => .error (.config s!"{path.text}: {documentError}")
  | some c => do
    c.validate
    return c

/-- Loads the configuration from a file. -/
def loadFrom (store : Store) (path : Path) : Except Failure Config :=
  match store.read path with
  | .error reason => .error (.config s!"{path.text}: {reason}")
  | .ok document => ofText path document

/-- Loads the configuration from the working directory. -/
def loadLocal (store : Store) : Except Failure Config :=
  match store.workingDirectory.map fun dir => dir.join fileName with
  | none => .ok {}
  | some path => if store.pathExists path then loadFrom store path else .ok {}

/-- Loads the configuration from a file, or from the working directory if none is named. -/
def load (store : Store) : Option Path → Except Failure Config
  | some path => loadFrom store path
  | none => loadLocal store

end SuiteLint.Config
