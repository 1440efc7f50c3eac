import SuiteLint.CommandLine.Sites

/-!
# The program

Copies the files that a command needs into a `FileSystem`, runs the command on it, and does on the
disk what the run did to the copy.
-/

namespace SuiteLint.Main

/-- The place that a path names, seen from another place. -/
def placeOf (start : Place) (p : Path) : Place :=
  p.components.foldl
    (fun place component =>
      match component with
      | .root => []
      | .current => place
      | .parent => place.dropLast
      | .name n => place ++ [n])
    start

/-! ## Copying files from the disk -/

/-- Copies what stands at a place of the disk and below it. Links are not followed, and what
cannot be read is not there. -/
partial def copyBelow (fs : FileSystem) (place : Place) : IO FileSystem := do
  try
    let target ← IO.FS.realPath place.toPath.text
    if ← target.isDir then
      let mut fs := fs.put place .directory
      for entry in ← target.readDir do
        if (← entry.path.symlinkMetadata).type != .symlink then
          fs ← copyBelow fs (place ++ [entry.fileName])
      return fs
    else
      let content ← IO.FS.readBinFile target
      let file := Node.file fs.nextNumber content.toList
      return { fs.put place file with nextNumber := fs.nextNumber + 1 }
  catch _ => return fs

/-- Copies what stands on the way to a place; files are copied without their content. -/
def copyAbove (fs : FileSystem) (place : Place) : IO FileSystem := do
  let mut fs := fs
  for n in List.range place.length do
    let above : Place := place.take n
    try
      let target ← IO.FS.realPath above.toPath.text
      if !above.isEmpty && (fs.node? above).isNone then
        if ← target.isDir then fs := fs.put above .directory
        else if ← target.pathExists then
          fs := { fs.put above (.file fs.nextNumber []) with nextNumber := fs.nextNumber + 1 }
    catch _ => pure ()
  return fs

/-- Copies what stands at some paths. -/
def copy (start : Place) (paths : List Path) : IO FileSystem := do
  let mut fs ← copyAbove { workingDirectory := start } (start ++ ["."])
  for p in paths do
    let place := placeOf start p
    fs ← copyBelow (← copyAbove fs place) place
  return fs

/-! ## Changing the disk -/

/-- Does on the disk what turns one file system into another. -/
def apply (before after : FileSystem) : IO Unit := do
  for (place, node) in after.nodes.reverse do
    if before.node? place != some node then
      match node with
      | .directory => IO.FS.createDirAll place.toPath.text
      | .file _ content => IO.FS.writeBinFile place.toPath.text ⟨content.toArray⟩
  for (place, _) in before.nodes do
    if (after.node? place).isNone then IO.FS.removeFile place.toPath.text

/-! ## Running -/

/-- What the program can do. -/
def usage : String :=
  "Usage: testcop [-v] [-q] [--color auto|always|never] <check | rules | model fetch>\n"

/-- What is printed about arguments that lead to no run. -/
def usageText : CommandLine.UsageError → String
  | .displayHelp => usage
  | .displayVersion => "testcop 0.1.0\n"
  | .displayHelpOnMissingArgument => usage
  | .missingSubcommand => "error: a subcommand is required\n\n" ++ usage
  | .unknownArgument => "error: unexpected argument\n\n" ++ usage
  | .invalidSubcommand => "error: unrecognized subcommand\n\n" ++ usage
  | .invalidValue | .valueValidation => "error: invalid value for an option\n\n" ++ usage
  | .argumentConflict => "error: an option cannot be used multiple times\n\n" ++ usage
  | .tooManyValues => "error: unexpected value for an option\n\n" ++ usage

/-- What the program finds around it. There is no connection to a network. -/
def environment : IO Model.Environment := do
  let cacheHome := (← IO.getEnv "XDG_CACHE_HOME").map Path.mk
  return {
    home := (← IO.getEnv "HOME").map Path.mk
    cacheHome := cacheHome.filter Path.isAbsolute
    download := fun url => .error (.http s!"Failed to connect to model URL: {url}") }

/-- Colors are used by themselves if somebody can see them and nobody objects. -/
def settleColors (color : Report.ColorMode) : IO Report.ColorMode := do
  let visible := (← (← IO.getStdout).isTty) && (← IO.getEnv "NO_COLOR").isNone
  return if color == .auto && visible then .always else color

/-- Runs a command on the disk. -/
def runOnDisk (i : CommandLine.Invocation) : IO CommandLine.Outcome := do
  let env ← environment
  let start := placeOf [] ⟨(← IO.currentDir).toString⟩
  let bare : FileSystem := { workingDirectory := start }
  let configured ← copy start (i.configSite? bare).toList
  let before ← copy start (i.sites env configured)
  let outcome := ({ i with color := ← settleColors i.color }).run env before
  apply before outcome.files
  return outcome

end SuiteLint.Main

/-- Runs the program on its arguments. -/
def main (args : List String) : IO UInt32 := do
  match SuiteLint.CommandLine.parse args with
  | .error error =>
    let text := SuiteLint.Main.usageText error
    if error.exitCode == 0 then (← IO.getStdout).putStr text else (← IO.getStderr).putStr text
    return UInt32.ofNat error.exitCode
  | .ok i =>
    let outcome ← SuiteLint.Main.runOnDisk i
    (← IO.getStdout).putStr outcome.out
    (← IO.getStderr).putStr outcome.err
    return UInt32.ofNat outcome.exitCode
