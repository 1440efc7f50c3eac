import SuiteLint.FileSystem.Basic

/-!
# Changing a file system

Every operation returns what came of it and the file system afterwards: an operation that fails in
its middle leaves behind what it did before.
-/

namespace SuiteLint.FileSystem

/-- What comes of an operation, and the file system after it. -/
abbrev Outcome (α : Type) : Type := Except SystemError α × FileSystem

/-! ## Directories -/

/-- Makes a directory; its parent must be there. -/
def makeDirectory (fs : FileSystem) (p : Path) : Outcome Unit :=
  match fs.locate p with
  | .error error => (.error error, fs)
  | .ok place =>
    match fs.node? place with
    | some _ => (.error .alreadyExists, fs)
    | none =>
      match fs.refusal (.makeDirectory place) with
      | some error => (.error error, fs)
      | none => (.ok (), fs.put place .directory)

/-- Settles an attempt to make a directory: it may be there already. -/
def orDirectory (p : Path) (outcome : Outcome Unit) : Outcome Unit :=
  match outcome with
  | (.ok (), fs) => (.ok (), fs)
  | (.error error, fs) => if fs.isDirectory p then (.ok (), fs) else (.error error, fs)

/-- Makes a directory, given by its components from the last one up, with those above it. -/
def makeDirectoriesUp (fs : FileSystem) : List Path.Component → Outcome Unit
  | [] => (.ok (), fs)
  | last :: above =>
    let p := Path.ofComponents (last :: above).reverse
    match fs.makeDirectory p with
    | (.error .notFound, fs) =>
      match makeDirectoriesUp fs above with
      | (.ok (), fs) => orDirectory p (fs.makeDirectory p)
      | failed => failed
    | outcome => orDirectory p outcome

/-- Makes a directory with those above it, unless they are there. -/
def makeDirectories (fs : FileSystem) (p : Path) : Outcome Unit :=
  fs.makeDirectoriesUp p.components.reverse

/-- Makes the directory that a path lies in. -/
def ensureParent (fs : FileSystem) (p : Path) : Outcome Unit :=
  match p.parent? with
  | some parent => fs.makeDirectories parent
  | none => (.ok (), fs)

/-! ## Files -/

/-- Opens a file for writing and makes it if it is not there. -/
def openFile (fs : FileSystem) (p : Path) : Outcome (Place × Nat) :=
  match fs.locate p with
  | .error error => (.error error, fs)
  | .ok place =>
    if endsInSeparator p then (.error .isDirectory, fs)
    else
      match fs.node? place with
      | some .directory => (.error .isDirectory, fs)
      | some (.file number _) =>
        match fs.refusal (.create place) with
        | some error => (.error error, fs)
        | none => (.ok (place, number), fs)
      | none =>
        match fs.refusal (.create place) with
        | some error => (.error error, fs)
        | none =>
          let number := fs.nextNumber
          (.ok (place, number), { fs.put place (.file number []) with nextNumber := number + 1 })

/-- Opens a file and gives it a content. -/
def writeFile (fs : FileSystem) (p : Path) (content : List UInt8) : Outcome Place :=
  match fs.openFile p with
  | (.error error, fs) => (.error error, fs)
  | (.ok (place, number), fs) =>
    match fs.refusal (.write place) with
    | some error => (.error error, fs.put place (.file number []))
    | none => (.ok place, fs.put place (.file number content))

/-- Renames a file; a file of the new name is replaced. -/
def renameFile (fs : FileSystem) (source target : Path) : Outcome Unit :=
  match fs.lookup source, fs.locate target with
  | .error error, _ => (.error error, fs)
  | _, .error error => (.error error, fs)
  | .ok (old, node), .ok new =>
    match target.fileName? with
    | none => (.error .busy, fs)
    | some _ =>
      if endsInSeparator target then (.error .notDirectory, fs)
      else
        match fs.node? new with
        | some .directory => (.error .isDirectory, fs)
        | _ =>
          match fs.refusal (.rename old new) with
          | some error => (.error error, fs)
          | none => (.ok (), (fs.drop old).put new node)

/-- Removes a file. -/
def removeFile (fs : FileSystem) (p : Path) : Outcome Unit :=
  match fs.lookup p with
  | .error error => (.error error, fs)
  | .ok (_, .directory) => (.error .isDirectory, fs)
  | .ok (place, .file _ _) =>
    match fs.refusal (.remove place) with
    | some error => (.error error, fs)
    | none => (.ok (), fs.drop place)

end SuiteLint.FileSystem
