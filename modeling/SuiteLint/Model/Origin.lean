import SuiteLint.Failure
import SuiteLint.Pos.Bundled
import SuiteLint.Text.Utf8
import SuiteLint.Url

/-!
# Origins of models

Where the bytes of a model come from at first hand. Asking an origin twice gives the same answer, so
an origin is described by the answer it gives.
-/

namespace SuiteLint.Model

/-- The bytes of a model, or why there are none. -/
abbrev Answer : Type := Except Failure (List UInt8)

/-- Where a model comes from. -/
inductive Origin where
  /-- The model that is part of the program. -/
  | bundled
  /-- A remote model, and what the network answers to a request. -/
  | remote (url : String) (download : String → Answer)
  /-- A remote model that must not be asked for. -/
  | offline (url : String)
  /-- A model with a name and the answer that it gives. -/
  | custom (name : String) (answer : Answer)

namespace Origin

/-- An origin in words. -/
def describe : Origin → String
  | bundled => "bundled model"
  | remote url _ => url
  | offline url => s!"{url} (offline)"
  | custom name _ => name

/-- What an origin answers. -/
def fetch : Origin → Answer
  | bundled => .ok (Text.Utf8.encode Pos.bundledText)
  | remote url download =>
    if Url.isRemote url then download url
    else .error (.config s!"Invalid model URL (must start with http:// or https://): {url}")
  | offline url => .error (.modelUnavailable s!"offline and {url} is not cached")
  | custom _ answer => answer

/-- How often something outside of the program is asked when an origin is. -/
def inquiries : Origin → Nat
  | bundled => 0
  | remote url _ => if Url.isRemote url then 1 else 0
  | offline _ => 0
  | custom _ _ => 1

end Origin

end SuiteLint.Model
