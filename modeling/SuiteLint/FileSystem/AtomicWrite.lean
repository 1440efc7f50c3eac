import SuiteLint.FileSystem.Change

/-!
# Atomic writing

New content is gathered in a temporary file beside its target and takes the place of the target by a
renaming, so that a reader finds the old content or the new one and nothing between them. If a step
fails, the temporary file is removed and the target is as it was.
-/

namespace SuiteLint.FileSystem

/-- Where the new content of a file is gathered before it takes its place. -/
def temporary (fs : FileSystem) (p : Path) : Path := p.sidecar s!"tmp.{fs.process}"

/-- Removes the temporary file after a failure. -/
def abandon (fs : FileSystem) (p : Path) : FileSystem := (fs.removeFile (fs.temporary p)).2

/-- Writes the temporary file of a path. -/
def fillTemporary (fs : FileSystem) (p : Path) (content : List UInt8) : Outcome Unit :=
  match fs.writeFile (fs.temporary p) content with
  | (.error error, fs) => (.error error, fs)
  | (.ok place, fs) =>
    match fs.refusal (.sync place) with
    | some error => (.error error, fs)
    | none => (.ok (), fs)

/-- The first half of an atomic write: the content is gathered in the temporary file, which is gone
again if that fails. -/
def stage (fs : FileSystem) (p : Path) (content : List UInt8) : Outcome Unit :=
  match fs.ensureParent p with
  | (.error error, fs) => (.error error, fs)
  | (.ok (), fs) =>
    match fs.fillTemporary p content with
    | (.error error, fs) => (.error error, fs.abandon p)
    | (.ok (), fs) => (.ok (), fs)

/-- The second half of an atomic write: the temporary file takes its place, or is gone again if that
fails. -/
def publish (fs : FileSystem) (p : Path) : Outcome Unit :=
  match fs.renameFile (fs.temporary p) p with
  | (.error error, fs) => (.error error, fs.abandon p)
  | (.ok (), fs) => (.ok (), fs)

/-- Writes a file so that nobody sees it half written. -/
def atomicWrite (fs : FileSystem) (p : Path) (content : List UInt8) : Outcome Unit :=
  match fs.stage p content with
  | (.error error, fs) => (.error error, fs)
  | (.ok (), fs) => fs.publish p

end SuiteLint.FileSystem
