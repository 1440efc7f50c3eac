import SuiteLint.Model.Cache
import SuiteLint.Options
import SuiteLint.Pos.Lexicon

/-!
# Sources of models

A source is an origin, with or without a cache in front of it. Which one an analysis uses follows
from its options: the bundled model if no address is given, and otherwise the remote one, which is
always cached if there is a place for it.
-/

namespace SuiteLint.Model

/-- Where an analysis gets its model from. -/
inductive Source where
  | direct (origin : Origin)
  | cached (origin : Origin) (path : Path)

namespace Source

/-- A source in words. -/
def describe : Source → String
  | direct origin => origin.describe
  | cached origin path => s!"{origin.describe} cached at {path.text}"

/-- The bytes of the model, with what that did to the file system. -/
def bytes (source : Source) (fs : FileSystem) : Cache.Outcome :=
  match source with
  | direct origin => { answer := origin.fetch, fetches := 1, files := fs }
  | cached origin path => Cache.answer origin path fs

/-- The origin of a source. -/
def origin : Source → Origin
  | direct origin => origin
  | cached origin _ => origin

end Source

/-! ## Loading -/

/-- Reads bytes as a lexicon. -/
def read (bytes : List UInt8) : Except Failure Pos.Lexicon :=
  match Pos.Lexicon.ofBytes bytes with
  | .ok lexicon => .ok lexicon
  | .error fault => .error (.modelUnavailable fault.message)

/-- The lexicon of an answer, or why there is none. -/
def load (answer : Answer) : Except String Pos.Lexicon :=
  match answer with
  | .error failure => .error failure.message
  | .ok bytes => (read bytes).mapError Failure.message

/-! ## Loading on demand -/

/-- A model that is loaded when it is first asked for; what came of that is remembered. -/
structure OnDemand where
  loaded : Option (Except String Pos.Lexicon) := none

namespace OnDemand

/-- The model, and whether a source had to be asked for it. -/
def ask (model : OnDemand) (answer : Answer) : Except String Pos.Lexicon × OnDemand × Bool :=
  match model.loaded with
  | some result => (result, model, false)
  | none => (load answer, ⟨some (load answer)⟩, true)

end OnDemand

/-! ## Choosing a source -/

/-- What a run finds around it. -/
structure Environment where
  /-- The directory that belongs to the user. -/
  home : Option Path
  /-- The directory for files that may be made again, if it is not the usual one below `home`. -/
  cacheHome : Option Path := none
  /-- What the network answers to a request. -/
  download : String → Answer

/-- The directory in which the program keeps files that may be made again. -/
def Environment.cacheDirectory (env : Environment) : Option Path :=
  (env.cacheHome <|> env.home.map fun home => home.join ".cache").map fun dir => dir.join "testcop"

/-- The name of the file in which a model is cached. Each address has a file of its own. -/
def cacheFileName : Option String → String
  | none => "pos-model.bin"
  | some url =>
    let digest := Digest.sha256Hex (Text.Utf8.encode url)
    s!"pos-model-{String.ofList (digest.toList.take 16)}.bin"

/-- Where a model is cached if nothing else is said. -/
def Environment.modelPath (env : Environment) (url : Option String) : Option Path :=
  env.cacheDirectory.map fun dir => dir.join (cacheFileName url)

/-- A source for an origin and the place of its cache, if it has one. -/
def Source.new (origin : Origin) : Option Path → Source
  | some path => .cached origin path
  | none => .direct origin

/-- The source that options ask for. -/
def Environment.source (env : Environment) (o : Options) : Source :=
  match o.modelUrl with
  | none => Source.new .bundled o.modelPath
  | some url =>
    let origin := if o.offline then Origin.offline url else Origin.remote url env.download
    Source.new origin (o.modelPath <|> env.modelPath (some url))

end SuiteLint.Model
