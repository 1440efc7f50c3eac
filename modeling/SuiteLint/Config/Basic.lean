import SuiteLint.Options
import SuiteLint.Toml.Document

/-!
# Configuration files

A configuration file is a TOML document with a few keys, all of which may be missing. Keys that are
not known make the document invalid.
-/

namespace SuiteLint

/-- What a configuration file says. -/
structure Config where
  /-- The rules to run; all of them if nothing is said. -/
  rules : Option (List String) := none
  failOn : FailOn := .any
  suppressions : List String := []
  exclude : List String := []
  allowedParents : List String := []
  /-- Where the model is cached. -/
  modelPath : Option Path := none
  /-- Where the model is downloaded from. -/
  modelUrl : Option String := none
deriving Repr, DecidableEq, Inhabited

namespace Config

/-- The name of the file that is looked for in the working directory. -/
def fileName : String := ".testcop.toml"

/-- The options that a configuration describes. -/
def toOptions (c : Config) : Options :=
  { failOn := c.failOn
    rules :=
      match c.rules with
      | some ids => .only (OrderedSet.ofList ids)
      | none => .all
    suppressions := OrderedSet.ofList c.suppressions
    modelPath := c.modelPath
    modelUrl := c.modelUrl
    exclude := c.exclude
    allowedParents := OrderedSet.ofList c.allowedParents }

/-! ## Reading documents -/

open Toml (Value)

/-- The text of a string. -/
def text? : Value → Option String
  | .string s => some s
  | _ => none

/-- The texts of an array of strings. -/
def texts? : Value → Option (List String)
  | .array elements => elements.mapM text?
  | _ => none

/-- Whether a value is an empty array or table. -/
def isHollow : Value → Bool
  | .array elements => elements.isEmpty
  | .table members => members.isEmpty
  | _ => false

/-- When a run fails, by name. -/
def failOnNamed? (name : String) : Option FailOn :=
  if name == "any" then some .any
  else if name == "none" then some .none
  else none

/-- When a run fails: a name, or a table with that name as its only key and nothing in it. -/
def failOn? : Value → Option FailOn
  | .string name => failOnNamed? name
  | .table [(name, v)] => if isHollow v then failOnNamed? name else none
  | _ => none

/-- Adds a member of the model table. -/
def withModelMember (c : Config) (key : String) (v : Value) : Option Config :=
  if key == "path" then (text? v).map fun s => { c with modelPath := some ⟨s⟩ }
  else if key == "url" then (text? v).map fun s => { c with modelUrl := some s }
  else none

/-- Adds where the model comes from: a table, or an array with path and address in this order. -/
def withModel (c : Config) : Value → Option Config
  | .table members => members.foldlM (fun c m => c.withModelMember m.1 m.2) c
  | .array [] => some c
  | .array [path] => c.withModelMember "path" path
  | .array (path :: url :: _) => do (← c.withModelMember "path" path).withModelMember "url" url
  | _ => none

/-- Adds a member of the document. -/
def withMember (c : Config) (key : String) (v : Value) : Option Config :=
  if key == "rules" then (texts? v).map fun ids => { c with rules := some ids }
  else if key == "fail_on" then (failOn? v).map fun f => { c with failOn := f }
  else if key == "suppressions" then (texts? v).map fun ids => { c with suppressions := ids }
  else if key == "exclude" then (texts? v).map fun patterns => { c with exclude := patterns }
  else if key == "allowed_parents" then
    (texts? v).map fun names => { c with allowedParents := names }
  else if key == "model" then c.withModel v
  else none

/-- The configuration that a document describes. -/
def ofDocument? (document : String) : Option Config :=
  match Toml.parse document with
  | some (.table members) => members.foldlM (fun c m => withMember c m.1 m.2) {}
  | _ => none

end Config

end SuiteLint
