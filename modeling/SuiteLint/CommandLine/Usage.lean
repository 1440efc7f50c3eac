import SuiteLint.KeyedList
import SuiteLint.Text.Split

/-!
# Reading arguments

A command has options and may have subcommands. Its arguments are read from left to right: options
until a subcommand is named, and then the arguments of the subcommand. The value of an option is
checked when the next option is read, or at the end of the command; an argument that cannot be
read at all is reported before a value that is still to be checked.
-/

namespace SuiteLint.CommandLine

/-- Why arguments lead to no run. -/
inductive UsageError where
  | displayHelp
  | displayVersion
  /-- A command that needs arguments has none. -/
  | displayHelpOnMissingArgument
  | missingSubcommand
  | unknownArgument
  | invalidSubcommand
  | invalidValue
  /-- A value has the wrong form. -/
  | valueValidation
  /-- An option for one use is repeated. -/
  | argumentConflict
  /-- A switch has a value. -/
  | tooManyValues
deriving Repr, DecidableEq

/-- The exit code of a run that arguments keep from starting. -/
def UsageError.exitCode : UsageError → Nat
  | displayHelp | displayVersion => 0
  | _ => 2

/-- What an option does. -/
inductive Action where
  | help
  | version
  /-- A switch for one use. -/
  | flag
  /-- A switch whose uses are counted. -/
  | count
  /-- One value that a check lets through. -/
  | single (check : String → Option UsageError)
  /-- Any number of values; commas may separate them. -/
  | many (delimited : Bool)

/-- Whether an option has values. -/
def Action.takesValue : Action → Bool
  | single _ | many _ => true
  | _ => false

/-- An option of a command. -/
structure Switch where
  /-- The name behind two hyphens. -/
  name : String
  /-- The letter behind one hyphen. -/
  letter : Option Char := none
  action : Action

/-- A command with its options and subcommands. -/
inductive Spec where
  | command (name : String) (switches : List Switch) (subcommands : List Spec)

namespace Spec

/-- The name of a command. -/
def name : Spec → String
  | command name _ _ => name

/-- The options of a command. -/
def switches : Spec → List Switch
  | command _ switches _ => switches

/-- The subcommands of a command. -/
def subcommands : Spec → List Spec
  | command _ _ subcommands => subcommands

/-- The subcommand with a name. Where there are subcommands, there is also one for help. -/
def subcommand? (s : Spec) (name : String) : Option Spec :=
  s.subcommands.find? fun sub => sub.name == name

/-- Whether a command has a subcommand with a name, the one for help included. -/
def hasSubcommand (s : Spec) (name : String) : Bool :=
  (s.subcommand? name).isSome || (!s.subcommands.isEmpty && name == "help")

/-- The option with a name. -/
def switchNamed? (s : Spec) (name : String) : Option Switch :=
  s.switches.find? fun switch => switch.name == name

/-- The option with a letter. -/
def switchLettered? (s : Spec) (letter : Char) : Option Switch :=
  s.switches.find? fun switch => switch.letter == some letter

end Spec

/-- The options that were used, with their values. -/
abbrev Found : Type := List (String × List String)

/-- The arguments of a command while they are read. -/
structure Reading where
  found : Found := []
  /-- The last option, whose values are not checked yet. -/
  pending : Option (Switch × List String) := none
  /-- Whether the last option still waits for its value. -/
  awaiting : Bool := false
  /-- Whether two hyphens have ended the options. -/
  trailing : Bool := false

namespace Reading

/-- The values behind an option, as many as commas separate. -/
def delimit (delimited : Bool) (values : List String) : List String :=
  if delimited then values.flatMap (Text.split (· == ',')) else values

/-- Takes an option with its values into account. -/
def react (found : Found) (switch : Switch) (values : List String) : Except UsageError Found :=
  let before := KeyedList.get? switch.name found
  match switch.action with
  | .help => .error .displayHelp
  | .version => .error .displayVersion
  | .flag => if before.isSome then .error .argumentConflict else .ok ((switch.name, []) :: found)
  | .count => .ok (KeyedList.set switch.name [] found)
  | .single check =>
    match values with
    | [] => .error .invalidValue
    | value :: _ =>
      if before.isSome then .error .argumentConflict
      else
        match check value with
        | some error => .error error
        | none => .ok ((switch.name, [value]) :: found)
  | .many delimited =>
    if values.isEmpty then .error .invalidValue
    else .ok (KeyedList.set switch.name (before.getD [] ++ delimit delimited values) found)

/-- Checks the values of the last option. -/
def settle (r : Reading) : Except UsageError Reading :=
  match r.pending with
  | none => .ok r
  | some (switch, values) => do
    return { r with found := ← react r.found switch values, pending := none }

/-- Uses an option that has all it needs. -/
def use (r : Reading) (switch : Switch) (values : List String) : Except UsageError Reading := do
  let r ← r.settle
  return { r with found := ← react r.found switch values, awaiting := false }

/-- Uses an option that waits for its value. -/
def useAwaiting (r : Reading) (switch : Switch) : Except UsageError Reading := do
  return { ← r.settle with pending := some (switch, []), awaiting := true }

/-- Gives the last option its value. -/
def feed (r : Reading) (value : String) : Reading :=
  { r with
    pending := r.pending.map fun p => (p.1, p.2 ++ [value])
    awaiting := false }

/-- Reads an option by its name, with the value that an equals sign joins to it. -/
def readLong (s : Spec) (r : Reading) (name : String) (value : Option String) :
    Except UsageError Reading :=
  match s.switchNamed? name with
  | none => .error .unknownArgument
  | some switch =>
    match switch.action.takesValue, value with
    | true, some value => r.use switch [value]
    | true, none => r.useAwaiting switch
    | false, some _ => .error .tooManyValues
    | false, none => r.use switch []

/-- Reads letters behind one hyphen. What follows the letter of an option with a value is the value,
with or without an equals sign between them. -/
def readLetters (s : Spec) (r : Reading) : List Char → Except UsageError Reading
  | [] => .ok r
  | letter :: rest =>
    match s.switchLettered? letter with
    | none => .error .unknownArgument
    | some switch =>
      if switch.action.takesValue then
        match rest with
        | [] => r.useAwaiting switch
        | '=' :: value => r.use switch [String.ofList value]
        | value => r.use switch [String.ofList value]
      else do
        let r ← r.use switch []
        readLetters s r rest

/-- What an argument looks like. -/
inductive Shape where
  /-- Two hyphens alone. -/
  | escape
  | long (name : String) (value : Option String)
  | letters (letters : List Char)
  | plain

/-- The shape of an argument. -/
def shapeOf (arg : String) : Shape :=
  match arg.toList with
  | ['-', '-'] => .escape
  | '-' :: '-' :: body =>
    let name := body.takeWhile (· != '=')
    match body.drop name.length with
    | [] => .long (String.ofList name) none
    | _ :: value => .long (String.ofList name) (some (String.ofList value))
  | ['-'] => .plain
  | '-' :: letters => .letters letters
  | _ => .plain

/-- The error for an argument that is neither an option nor a value. -/
def strayArgument (s : Spec) (r : Reading) (arg : String) : UsageError :=
  if r.trailing && s.hasSubcommand arg then .unknownArgument
  else if s.subcommands.isEmpty then .unknownArgument
  else .invalidSubcommand

/-- Reads an argument that names no subcommand. -/
def readArgument (s : Spec) (r : Reading) (arg : String) : Except UsageError Reading :=
  if r.trailing then .error (strayArgument s r arg)
  else
    match shapeOf arg with
    | .escape => .ok { r with trailing := true, awaiting := false }
    | .long name value => readLong s r name value
    | .letters letters => readLetters s r letters
    | .plain => if r.awaiting then .ok (r.feed arg) else .error (strayArgument s r arg)

/-- The options of a command whose arguments have been read. A command with subcommands needs one.
-/
def finish (s : Spec) (r : Reading) (hasSubcommand : Bool) : Except UsageError Found := do
  let r ← r.settle
  if hasSubcommand || s.subcommands.isEmpty then return r.found
  else if r.found.isEmpty then .error .displayHelpOnMissingArgument
  else .error .missingSubcommand

end Reading

/-- The commands from the outermost one on, with the options that were used for each. -/
abbrev Trail : Type := List (String × Found)

/-- The help for a command that is named step by step. -/
def helpFor : Spec → List String → UsageError
  | _, [] => .displayHelp
  | s, name :: rest =>
    match s.subcommand? name with
    | some sub => helpFor sub rest
    | none =>
      if s.hasSubcommand name && rest.isEmpty then .displayHelp else .invalidSubcommand

/-- Reads the arguments of a command. -/
def readArguments (s : Spec) (r : Reading) : List String → Except UsageError Trail
  | [] => do return [(s.name, ← r.finish s false)]
  | arg :: rest =>
    if !r.trailing && !r.awaiting && s.hasSubcommand arg then
      match s.subcommand? arg with
      | some sub => do
        let trail ← readArguments sub {} rest
        return (s.name, ← r.finish s true) :: trail
      | none => .error (helpFor s rest)
    else do
      let r ← r.readArgument s arg
      readArguments s r rest

end SuiteLint.CommandLine
