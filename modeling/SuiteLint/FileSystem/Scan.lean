import SuiteLint.Failure
import SuiteLint.FileSystem.Basic
import SuiteLint.Glob

/-!
# Finding files

The files below a directory that have an extension and that no pattern excludes. A pattern
excludes a file if it matches the path of the file or its path from the directory.
-/

namespace SuiteLint

/-- Reads patterns, or names the first one that cannot be read. -/
def Glob.parseAll (patterns : List String) : Except Failure (List Glob.Pattern) :=
  patterns.mapM fun pattern =>
    match Glob.parse pattern with
    | .ok parts => .ok parts
    | .error _ => .error (.invalidPattern pattern)

/-- Which files are wanted. -/
structure FileFilter where
  ext : String
  exclude : List Glob.Pattern

namespace FileFilter

/-- The filter for an extension and patterns as they are written. -/
def new (ext : String) (patterns : List String) : Except Failure FileFilter := do
  return { ext, exclude := ← Glob.parseAll patterns }

/-- Whether a file is wanted, by its path and its path from the directory that is searched. -/
def includes (filter : FileFilter) (path relative : Path) : Bool :=
  path.extension? == some filter.ext
    && !(Glob.anyMatches filter.exclude relative.text || Glob.anyMatches filter.exclude path.text)

end FileFilter

namespace FileSystem

/-- The paths of all files below a directory. -/
def filePaths (fs : FileSystem) (root : Path) (place : Place) : List Path :=
  (fs.filesBelow place).map fun entry => entry.1.foldl Path.join root

/-- The wanted files below a directory, sorted. -/
def scan (fs : FileSystem) (filter : FileFilter) (root : Path) : Except Failure (List Path) :=
  match fs.lookup root with
  | .ok (place, .directory) =>
    let wanted := (fs.filePaths root place).filter fun path =>
      filter.includes path ((Path.relativeTo? root path).getD path)
    .ok (wanted.mergeSort fun a b => a.cmp b != .gt)
  | _ => .error (.rootNotFound root)

end FileSystem

end SuiteLint
