import SuiteLint.CommandLine.Run

/-!
# Sites of a command

The paths that a command may read or write. Whoever runs a command on a part of a file system needs
no more than what stands at these paths and below them.
-/

namespace SuiteLint.CommandLine

/-- The paths of a cached model: the file, its marker and its lock. -/
def cacheSites (path : Path) : List Path :=
  [path, Model.Cache.marker path, Model.Cache.lockFile path]

/-- The file that a configuration is read from. -/
def configSite (fs : FileSystem) (config : Option Path) : Path :=
  config.getD (fs.workingDirectory.toPath.join Config.fileName)

/-- The paths of the model that options ask for. -/
def modelSites (env : Model.Environment) (o : Options) : List Path :=
  match env.source o with
  | .direct _ => []
  | .cached _ path => cacheSites path

namespace Invocation

/-- The file that the configuration of a command is read from, if it has one. -/
def configSite? (fs : FileSystem) (i : Invocation) : Option Path :=
  match i.command with
  | .check arguments => some (configSite fs arguments.config)
  | .rules => none
  | .fetchModel config _ => some (configSite fs config)

/-- The paths of a command on a file system that has its configuration. -/
def sites (env : Model.Environment) (fs : FileSystem) (i : Invocation) : List Path :=
  let model := fun (config : Option Path) (arguments : ModelArguments) =>
    match Config.load (configStore fs) config with
    | .error _ => []
    | .ok c =>
      match withModelArguments c.toOptions arguments with
      | .error _ => []
      | .ok o => modelSites env o
  (i.configSite? fs).toList ++
    match i.command with
    | .check arguments =>
      [arguments.sources, arguments.classes] ++ arguments.output.toList
        ++ model arguments.config arguments.model
    | .rules => []
    | .fetchModel config arguments => model config arguments

end Invocation

end SuiteLint.CommandLine
