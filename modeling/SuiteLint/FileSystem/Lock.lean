import SuiteLint.FileSystem.Change

/-!
# Locks

A lock is held on a file, whatever its name becomes. It is given back by its holder.
-/

namespace SuiteLint.FileSystem

/-- Why a lock is not acquired. -/
inductive LockError where
  /-- Somebody holds it. -/
  | timeout
  | system (error : SystemError)
deriving Repr, DecidableEq

/-- The wording of an error. -/
def LockError.message : LockError → String
  | timeout => "lock acquisition timed out"
  | system error => s!"lock I/O error: {error.message}"

/-- Opens a lock file, with the directories that it needs, and returns its number. -/
def openLock (fs : FileSystem) (p : Path) : Outcome Nat :=
  match fs.ensureParent p with
  | (.error error, fs) => (.error error, fs)
  | (.ok (), fs) =>
    match fs.openFile p with
    | (.error error, fs) => (.error error, fs)
    | (.ok (_, number), fs) => (.ok number, fs)

/-- Acquires the lock on a lock file and returns its number. -/
def acquire (fs : FileSystem) (p : Path) : Except LockError Nat × FileSystem :=
  match fs.openLock p with
  | (.error error, fs) => (.error (.system error), fs)
  | (.ok number, fs) =>
    if fs.locked.contains number then (.error .timeout, fs)
    else (.ok number, { fs with locked := number :: fs.locked })

/-- Gives a lock back. -/
def release (fs : FileSystem) (number : Nat) : FileSystem :=
  { fs with locked := fs.locked.filter fun other => other != number }

end SuiteLint.FileSystem
