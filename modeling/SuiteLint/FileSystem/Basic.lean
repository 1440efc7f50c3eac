import SuiteLint.Path
import SuiteLint.Text.Utf8

/-!
# File systems

A file system is a tree of directories and files in which relative paths start at the working
directory. Every file has a number that it keeps when it is renamed; locks are held on numbers, not
on names. A file system may refuse operations that its tree would allow, as a full or read-only disk
does.
-/

namespace SuiteLint

/-- Why an operation of the system fails. -/
inductive SystemError where
  | notFound
  | busy
  | alreadyExists
  | notDirectory
  | isDirectory
  | accessDenied
  | diskFull
  /-- A name, or a whole path, is longer than the system takes. -/
  | nameTooLong
  /-- A path holds a zero byte, which no name can. -/
  | zeroByte
deriving Repr, DecidableEq, Inhabited

/-- The wording of an error. -/
def SystemError.message : SystemError → String
  | notFound => "No such file or directory (os error 2)"
  | accessDenied => "Permission denied (os error 13)"
  | busy => "Device or resource busy (os error 16)"
  | alreadyExists => "File exists (os error 17)"
  | notDirectory => "Not a directory (os error 20)"
  | isDirectory => "Is a directory (os error 21)"
  | diskFull => "No space left on device (os error 28)"
  | nameTooLong => "File name too long (os error 36)"
  | zeroByte => "file name contained an unexpected NUL byte"

/-- A place in the tree: the names on the way from the root. -/
abbrev Place : Type := List String

/-- The path of a place. -/
def Place.toPath (place : Place) : Path := Path.ofComponents (.root :: place.map .name)

/-- What stands at a place. -/
inductive Node where
  | directory
  | file (number : Nat) (content : List UInt8)
deriving Repr, DecidableEq, Inhabited

/-- The operations that a file system may refuse. -/
inductive Operation where
  | makeDirectory (place : Place)
  | create (place : Place)
  | write (place : Place)
  | sync (place : Place)
  | rename (source target : Place)
  | remove (place : Place)
deriving Repr, DecidableEq

/-- A tree of directories and files. -/
structure FileSystem where
  /-- What stands at the places below the root; a place stands here at most once. -/
  nodes : List (Place × Node) := []
  /-- Where relative paths start. -/
  workingDirectory : Place := []
  /-- The number of the next new file. -/
  nextNumber : Nat := 0
  /-- The numbers of the files that are locked. -/
  locked : List Nat := []
  /-- The number of the process that works on the tree. -/
  process : Nat := 1
  /-- Which operations are refused, and why. -/
  refusal : Operation → Option SystemError := fun _ => none

namespace FileSystem

/-- What stands at a place. The root is always there. -/
def node? (fs : FileSystem) (place : Place) : Option Node :=
  if place.isEmpty then some .directory
  else (fs.nodes.find? fun entry => entry.1 == place).map Prod.snd

/-- Puts something at a place. -/
def put (fs : FileSystem) (place : Place) (node : Node) : FileSystem :=
  { fs with nodes := (place, node) :: fs.nodes.filter fun entry => entry.1 != place }

/-- Takes away what stands at a place. -/
def drop (fs : FileSystem) (place : Place) : FileSystem :=
  { fs with nodes := fs.nodes.filter fun entry => entry.1 != place }

/-! ## Finding places -/

/-- Whether a directory stands at a place, or why not. -/
def requireDirectory (fs : FileSystem) (place : Place) : Except SystemError Unit :=
  match fs.node? place with
  | some .directory => .ok ()
  | some (.file _ _) => .error .notDirectory
  | none => .error .notFound

/-- The number of bytes that a name may have. -/
def maxNameBytes : Nat := 255

/-- The number of bytes that a path may have. -/
def maxPathBytes : Nat := 4095

/-- Whether a name is not too long. -/
def requireShort (limit : Nat) (name : String) : Except SystemError Unit :=
  if limit < name.utf8ByteSize then .error .nameTooLong else .ok ()

/-- Walks down from a place. All but the last component must lead to directories. -/
def walk (fs : FileSystem) (place : Place) : List Path.Component → Except SystemError Place
  | [] => .ok place
  | .root :: rest => walk fs [] rest
  | .current :: rest => walk fs place rest
  | .parent :: rest => do
    fs.requireDirectory place
    walk fs place.dropLast rest
  | .name n :: rest => do
    fs.requireDirectory place
    requireShort maxNameBytes n
    walk fs (place ++ [n]) rest

/-- Whether a path ends in a separator. -/
def endsInSeparator (p : Path) : Bool := Text.endsWith "/" p.text

/-- The place that a path names, whether something stands there or not. -/
def locate (fs : FileSystem) (p : Path) : Except SystemError Place :=
  if p.text.contains '\x00' then .error .zeroByte
  else if p.text == "" then .error .notFound
  else do
    requireShort maxPathBytes p.text
    let place ← fs.walk fs.workingDirectory p.components
    if Text.endsWith "/." p.text then fs.requireDirectory place
    return place

/-- The place that a path names and what stands there. -/
def lookup (fs : FileSystem) (p : Path) : Except SystemError (Place × Node) := do
  let place ← fs.locate p
  if endsInSeparator p then fs.requireDirectory place
  match fs.node? place with
  | some node => return (place, node)
  | none => .error .notFound

/-- Whether something stands where a path leads. -/
def pathExists (fs : FileSystem) (p : Path) : Bool := (fs.lookup p).isOk

/-- Whether a path leads to a file. -/
def isFile (fs : FileSystem) (p : Path) : Bool :=
  match fs.lookup p with
  | .ok (_, .file _ _) => true
  | _ => false

/-- Whether a path leads to a directory. -/
def isDirectory (fs : FileSystem) (p : Path) : Bool :=
  match fs.lookup p with
  | .ok (_, .directory) => true
  | _ => false

/-- The path from the root to where a path leads. -/
def canonicalize (fs : FileSystem) (p : Path) : Except SystemError Path := do
  let (place, _) ← fs.lookup p
  return place.toPath

/-! ## Reading -/

/-- The content of a file. -/
def read (fs : FileSystem) (p : Path) : Except SystemError (List UInt8) := do
  match ← fs.lookup p with
  | (_, .file _ content) => return content
  | (_, .directory) => .error .isDirectory

/-- Why a file cannot be read as text. -/
inductive TextError where
  | system (error : SystemError)
  | notUtf8
deriving Repr, DecidableEq

/-- The wording of an error. -/
def TextError.message : TextError → String
  | system error => error.message
  | notUtf8 => "stream did not contain valid UTF-8"

/-- The content of a text file. -/
def readText (fs : FileSystem) (p : Path) : Except TextError String :=
  match fs.read p with
  | .error error => .error (.system error)
  | .ok content =>
    match Text.Utf8.decode content with
    | .ok text => .ok text
    | .error _ => .error .notUtf8

/-- The files below a place: their places from there, and their contents. -/
def filesBelow (fs : FileSystem) (place : Place) : List (Place × List UInt8) :=
  fs.nodes.filterMap fun entry =>
    match Text.dropFront? place entry.1, entry.2 with
    | some rest, .file _ content => some (rest, content)
    | _, _ => none

end FileSystem

end SuiteLint
