import SuiteLint.CommandLine.Usage
import SuiteLint.Report.Format

/-!
# Commands

The commands of the program and their arguments.
-/

namespace SuiteLint.CommandLine

/-- Where the model comes from. -/
structure ModelArguments where
  path : Option Path := none
  url : Option String := none
  offline : Bool := false
deriving Repr, DecidableEq, Inhabited

/-- The arguments of a check. -/
structure CheckArguments where
  sources : Path
  classes : Path
  config : Option Path
  format : Report.Format
  /-- The file for the report, if it is not printed. -/
  output : Option Path
  rules : Option (List String)
  suppress : List String
  exclude : List String
  failOn : Option FailOn
  model : ModelArguments
deriving Repr, DecidableEq, Inhabited

/-- What the program is asked to do. -/
inductive Command where
  | check (arguments : CheckArguments)
  | rules
  | fetchModel (config : Option Path) (model : ModelArguments)
deriving Repr, DecidableEq, Inhabited

/-- A command with the settings that all commands share. -/
structure Invocation where
  quiet : Bool
  color : Report.ColorMode
  command : Command
deriving Repr, DecidableEq, Inhabited

/-! ## Values -/

/-- Paths must not be empty. -/
def checkPath (value : String) : Option UsageError :=
  if value == "" then some .invalidValue else none

/-- Formats must be known. -/
def checkFormat (value : String) : Option UsageError :=
  if (Report.Format.ofName? value).isNone then some .valueValidation else none

/-- The use of colors by its name. -/
def colorNamed? (name : String) : Option Report.ColorMode :=
  if name == "auto" then some .auto
  else if name == "always" then some .always
  else if name == "never" then some .never
  else none

/-- When a run fails, by its name. -/
def failOnNamed? (name : String) : Option FailOn :=
  if name == "any" then some .any
  else if name == "none" then some .none
  else none

/-- Names of choices must be known. -/
def checkChoice {α : Type} (named? : String → Option α) (value : String) : Option UsageError :=
  if (named? value).isNone then some .invalidValue else none

/-! ## Options -/

/-- The options that all commands have. -/
def sharedSwitches : List Switch :=
  [ { name := "verbose", letter := some 'v', action := .count },
    { name := "quiet", letter := some 'q', action := .flag },
    { name := "color", action := .single (checkChoice colorNamed?) },
    { name := "help", letter := some 'h', action := .help } ]

/-- The options on the model. -/
def modelSwitches : List Switch :=
  [ { name := "model-path", action := .single checkPath },
    { name := "model-url", action := .single fun _ => none },
    { name := "offline", action := .flag } ]

/-- The option for the configuration file. -/
def configSwitch : Switch := { name := "config", letter := some 'c', action := .single checkPath }

/-- The options of a check. -/
def checkSwitches : List Switch :=
  [ { name := "sources", action := .single checkPath },
    { name := "classes", action := .single checkPath },
    configSwitch,
    { name := "format", letter := some 'f', action := .single checkFormat },
    { name := "output", letter := some 'o', action := .single checkPath },
    { name := "rules", action := .many true },
    { name := "suppress", action := .many true },
    { name := "exclude", letter := some 'x', action := .many false },
    { name := "fail-on", action := .single (checkChoice failOnNamed?) } ]

/-- The program with its commands. -/
def program : Spec :=
  .command "testcop"
    ({ name := "version", letter := some 'V', action := .version } :: sharedSwitches)
    [ .command "check" (checkSwitches ++ modelSwitches ++ sharedSwitches) [],
      .command "rules" sharedSwitches [],
      .command "model" sharedSwitches
        [.command "fetch" (configSwitch :: (modelSwitches ++ sharedSwitches)) []] ]

/-! ## Reading -/

/-- The value of an option for one use. -/
def value? (found : Found) (name : String) : Option String :=
  (KeyedList.get? name found).bind List.head?

/-- The path that an option gives. -/
def path? (found : Found) (name : String) : Option Path := (value? found name).map Path.mk

/-- Whether an option was used. -/
def isUsed (found : Found) (name : String) : Bool := (KeyedList.get? name found).isSome

/-- The arguments on the model. -/
def modelArguments (found : Found) : ModelArguments :=
  { path := path? found "model-path", url := value? found "model-url"
    offline := isUsed found "offline" }

/-- The arguments of a check. -/
def checkArguments (found : Found) : CheckArguments :=
  { sources := (path? found "sources").getD ⟨"src/test/java"⟩
    classes := (path? found "classes").getD ⟨"target/test-classes"⟩
    config := path? found "config"
    format := ((value? found "format").bind Report.Format.ofName?).getD .text
    output := path? found "output"
    rules := KeyedList.get? "rules" found
    suppress := (KeyedList.get? "suppress" found).getD []
    exclude := (KeyedList.get? "exclude" found).getD []
    failOn := (value? found "fail-on").bind failOnNamed?
    model := modelArguments found }

/-- The command that a trail ends in. -/
def commandOf (trail : Trail) : Option Command :=
  match trail.getLast? with
  | none => none
  | some (name, found) =>
    if name == "check" then some (.check (checkArguments found))
    else if name == "rules" then some .rules
    else if name == "fetch" then
      some (.fetchModel (path? found "config") (modelArguments found))
    else none

/-- The use of colors: what is said last counts. -/
def colorOf (trail : Trail) : Report.ColorMode :=
  ((trail.reverse.findSome? fun level => value? level.2 "color").bind colorNamed?).getD .auto

/-- Reads the arguments of the program. -/
def parse (args : List String) : Except UsageError Invocation := do
  let trail ← readArguments program {} args
  match commandOf trail with
  | some command =>
    let quiet := trail.any fun level => isUsed level.2 "quiet"
    return { quiet, color := colorOf trail, command }
  | none => .error .missingSubcommand

end SuiteLint.CommandLine
