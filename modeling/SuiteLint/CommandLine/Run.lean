import SuiteLint.Analysis
import SuiteLint.CommandLine.Command
import SuiteLint.Config.Loader

/-!
# Running commands

What a command prints, what it leaves in the file system, and how it exits.
-/

namespace SuiteLint.CommandLine

/-- What came of a run. -/
structure Outcome where
  exitCode : Nat
  /-- What was printed. -/
  out : String := ""
  /-- What was printed about failures. -/
  err : String := ""
  files : FileSystem

/-- The outcome of a run that a failure ended. -/
def Outcome.ofFailure (failure : Failure) (files : FileSystem) : Outcome :=
  { exitCode := failure.exitCode.toNat, err := s!"Error: {failure.message}\n", files }

/-- The configuration files of a file system. -/
def configStore (fs : FileSystem) : Config.Store :=
  { read := fun path => (fs.readText path).mapError FileSystem.TextError.message
    pathExists := fs.pathExists
    workingDirectory := some fs.workingDirectory.toPath }

/-! ## Options -/

/-- Puts the arguments on the model above what is configured. -/
def withModelArguments (o : Options) (arguments : ModelArguments) : Except Failure Options :=
  let o := { o with
    modelUrl := arguments.url <|> o.modelUrl
    modelPath := arguments.path <|> o.modelPath
    offline := o.offline || arguments.offline }
  match arguments.url with
  | none => .ok o
  | some url =>
    if Url.isRemote url then .ok o
    else .error (.config s!"--model-url must start with http:// or https://, got '{url}'")

/-- The selection of rules by arguments. -/
def selectionOf (configured : Rule.Selection) :
    Option (List String) → Except Failure Rule.Selection
  | none => .ok configured
  | some ids =>
    match ids.find? fun id => (Rule.find? id).isNone with
    | some unknown => .error (.config s!"--rules: unknown rule '{unknown}'")
    | none => .ok (.only (OrderedSet.ofList ids))

/-- The options of a check: the configuration, with the arguments above it. -/
def checkOptions (config : Config) (arguments : CheckArguments) : Except Failure Options := do
  let o := config.toOptions
  let o := { o with
    rules := ← selectionOf o.rules arguments.rules
    suppressions := o.suppressions.insertAll arguments.suppress
    exclude := o.exclude ++ arguments.exclude
    failOn := arguments.failOn.getD o.failOn }
  withModelArguments o arguments.model

/-! ## Commands -/

/-- Writes a file and the directories above it. -/
def writeReport (fs : FileSystem) (path : Path) (text : String) : FileSystem.Outcome Unit :=
  match fs.ensureParent path with
  | (.error error, fs) => (.error error, fs)
  | (.ok (), fs) =>
    match fs.writeFile path (Text.Utf8.encode text) with
    | (.error error, fs) => (.error error, fs)
    | (.ok _, fs) => (.ok (), fs)

/-- Puts out a report: into a file, or onto the screen unless all is to be quiet. -/
def deliver (output : Option Path) (quiet : Bool) (text : String) (code : Nat) (fs : FileSystem) :
    Outcome :=
  match output with
  | none => { exitCode := code, out := if quiet then "" else text, files := fs }
  | some path =>
    match writeReport fs path text with
    | (.ok (), fs) => { exitCode := code, files := fs }
    | (.error error, fs) => Outcome.ofFailure (.io error.message) fs

/-- Checks a project. -/
def runCheck (env : Model.Environment) (fs : FileSystem) (quiet : Bool) (color : Report.ColorMode)
    (arguments : CheckArguments) : Outcome :=
  let options := do checkOptions (← Config.load (configStore fs) arguments.config) arguments
  match options with
  | .error failure => Outcome.ofFailure failure fs
  | .ok o =>
    match analyze env fs arguments.sources arguments.classes o with
    | (.error failure, fs) => Outcome.ofFailure failure fs
    | (.ok report, fs) =>
      let text := report.write arguments.format color (some fs.workingDirectory.toPath)
      deliver arguments.output quiet text (report.exitCode o.failOn).toNat fs

/-- Puts the model into its cache and makes sure that it can be read. -/
def runFetch (env : Model.Environment) (fs : FileSystem) (quiet : Bool) (config : Option Path)
    (arguments : ModelArguments) : Outcome :=
  let options := do
    withModelArguments (← Config.load (configStore fs) config).toOptions arguments
  match options with
  | .error failure => Outcome.ofFailure failure fs
  | .ok o =>
    let source := env.source o
    let outcome := source.bytes fs
    match outcome.answer with
    | .error failure => Outcome.ofFailure failure outcome.files
    | .ok bytes =>
      match Model.read bytes with
      | .error failure =>
        let text := s!"{source.describe}: {failure.message}"
        Outcome.ofFailure (.modelUnavailable text) outcome.files
      | .ok lexicon =>
        let text := s!"POS model ready: {source.describe} ({lexicon.size} words)\n"
        { exitCode := 0, out := if quiet then "" else text, files := outcome.files }

/-- Runs a command. -/
def Invocation.run (env : Model.Environment) (fs : FileSystem) (i : Invocation) : Outcome :=
  match i.command with
  | .check arguments => runCheck env fs i.quiet i.color arguments
  | .rules => { exitCode := 0, out := Rule.listing, files := fs }
  | .fetchModel config arguments => runFetch env fs i.quiet config arguments

/-- Runs the program on its arguments. -/
def run (env : Model.Environment) (fs : FileSystem) (args : List String) :
    Except UsageError Outcome := do
  return (← parse args).run env fs

end SuiteLint.CommandLine
