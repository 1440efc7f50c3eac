import SuiteLint.Digest
import SuiteLint.FileSystem.AtomicWrite
import SuiteLint.FileSystem.Lock
import SuiteLint.Model.Origin

/-!
# The cache of models

A model is kept in a file with a marker beside it that holds the digest of its bytes. The file
counts only if the marker matches. Whoever finds no such pair takes a lock, looks again, asks the
origin, and writes the file and then its marker. Whoever cannot get the lock waits for the marker
of the holder, and asks the origin without keeping the answer if none shows up.

A request is a machine: each step does one thing to the file system, so that several requests can
be interleaved at every point. `answer` runs a request from its start to its end while nobody else
acts.
-/

namespace SuiteLint.Model.Cache

open FileSystem (LockError)

/-- The file that vouches for the cached file. -/
def marker (path : Path) : Path := path.sidecar "ready"

/-- The file whose lock the writers take. -/
def lockFile (path : Path) : Path := path.sidecar "lock"

/-- On which occasion a request looks for a cached model. -/
inductive Occasion where
  /-- Before anything else. -/
  | first
  /-- With the lock in its hand. -/
  | locked (lock : Nat)
  /-- While another one holds the lock. -/
  | waiting
deriving Repr, DecidableEq

/-- Where a request stands. -/
inductive Phase where
  /-- About to read the marker. -/
  | readMarker (occasion : Occasion)
  /-- About to read the cached file, which should have a digest. -/
  | readFile (occasion : Occasion) (expected : String)
  /-- About to take the lock. -/
  | takeLock
  /-- About to ask the origin, with the lock in its hand. -/
  | fetch (lock : Nat)
  | stageFile (lock : Nat) (bytes : List UInt8)
  | publishFile (lock : Nat) (bytes : List UInt8)
  | stageMarker (lock : Nat) (bytes : List UInt8)
  | publishMarker (lock : Nat) (bytes : List UInt8)
  /-- About to give the lock back. -/
  | unlock (lock : Nat) (answer : Answer)
  /-- About to look for the marker of another request. -/
  | await
  /-- About to ask the origin without keeping the answer. -/
  | fetchOnly
  | done (answer : Answer)

/-- A bound on the steps that a request still takes if it does not wait for the lock. -/
def Phase.rank : Phase → Nat
  | readMarker .first => 13
  | readFile .first _ => 12
  | takeLock => 11
  | readMarker (.locked _) => 10
  | readFile (.locked _) _ => 9
  | fetch _ => 8
  | stageFile _ _ => 7
  | publishFile _ _ => 6
  | stageMarker _ _ => 5
  | publishMarker _ _ => 4
  | await => 10
  | readMarker .waiting => 9
  | readFile .waiting _ => 8
  | fetchOnly => 2
  | unlock _ _ => 2
  | done _ => 0

/-- A request for a model that is cached. -/
structure Request where
  origin : Origin
  path : Path
  phase : Phase := .readMarker .first
  /-- How often the origin has been asked. -/
  fetches : Nat := 0

namespace Request

/-- The failure of a request: what is not about the model is put into words that are. -/
def explain (r : Request) : Failure → Failure
  | .modelUnavailable text => .modelUnavailable text
  | failure =>
    .modelUnavailable s!"{r.origin.describe} (cache {r.path.text}): {failure.message}"

/-- Where a request goes on. -/
def goto (r : Request) (phase : Phase) : Request := { r with phase }

/-- The end of a request. -/
def finish (r : Request) (answer : Answer) : Request := r.goto (.done (answer.mapError r.explain))

/-- The end of a request that holds a lock. -/
def finishLocked (r : Request) (lock : Nat) (answer : Answer) : Request :=
  r.goto (.unlock lock answer)

/-- The cached model is there. -/
def hit (r : Request) (bytes : List UInt8) : Occasion → Request
  | .first => r.finish (.ok bytes)
  | .locked lock => r.finishLocked lock (.ok bytes)
  | .waiting => r.finish (.ok bytes)

/-- There is no cached model that counts. -/
def miss (r : Request) : Occasion → Request
  | .first => r.goto .takeLock
  | .locked lock => r.goto (.fetch lock)
  | .waiting => r.goto .fetchOnly

/-- Goes on with the lock behind an operation on files, or gives the lock back if it failed. -/
def proceed (r : Request) (lock : Nat) (next : Phase) :
    FileSystem.Outcome Unit → Request × FileSystem
  | (.ok (), fs) => (r.goto next, fs)
  | (.error error, fs) => (r.finishLocked lock (.error (.io error.message)), fs)

/-- One step of a request. If another one holds the lock, a patient request stays where it is. -/
def step (patient : Bool) (r : Request) (fs : FileSystem) : Request × FileSystem :=
  match r.phase with
  | .readMarker occasion =>
    match fs.readText (marker r.path) with
    | .error _ => (r.miss occasion, fs)
    | .ok text => (r.goto (.readFile occasion (Text.trim text)), fs)
  | .readFile occasion expected =>
    match fs.read r.path with
    | .error _ => (r.miss occasion, fs)
    | .ok bytes =>
      if Digest.sha256Hex bytes == expected then (r.hit bytes occasion, fs)
      else (r.miss occasion, fs)
  | .takeLock =>
    match fs.acquire (lockFile r.path) with
    | (.ok lock, fs) => (r.goto (.readMarker (.locked lock)), fs)
    | (.error .timeout, fs) => (if patient then r else r.goto .await, fs)
    | (.error (.system _), fs) => (r.goto .fetchOnly, fs)
  | .fetch lock =>
    let r := { r with fetches := r.fetches + 1 }
    match r.origin.fetch with
    | .ok bytes => (r.goto (.stageFile lock bytes), fs)
    | .error failure => (r.finishLocked lock (.error failure), fs)
  | .stageFile lock bytes => r.proceed lock (.publishFile lock bytes) (fs.stage r.path bytes)
  | .publishFile lock bytes => r.proceed lock (.stageMarker lock bytes) (fs.publish r.path)
  | .stageMarker lock bytes =>
    r.proceed lock (.publishMarker lock bytes)
      (fs.stage (marker r.path) (Text.Utf8.encode (Digest.sha256Hex bytes)))
  | .publishMarker lock bytes =>
    r.proceed lock (.unlock lock (.ok bytes)) (fs.publish (marker r.path))
  | .unlock lock answer => (r.finish answer, fs.release lock)
  | .await =>
    (if fs.isFile (marker r.path) then r.goto (.readMarker .waiting) else r.goto .fetchOnly, fs)
  | .fetchOnly =>
    let r := { r with fetches := r.fetches + 1 }
    (r.finish r.origin.fetch, fs)
  | .done _ => (r, fs)

/-- Runs a request for a number of steps while nobody else acts. -/
def run : Nat → Request → FileSystem → Request × FileSystem
  | 0, r, fs => (r, fs)
  | n + 1, r, fs =>
    let (r, fs) := r.step false fs
    run n r fs

/-- What a request has come to. -/
def result? (r : Request) : Option Answer :=
  match r.phase with
  | .done answer => some answer
  | _ => none

end Request

/-- What a request came to, how often it asked the origin, and the file system afterwards. -/
structure Outcome where
  answer : Answer
  fetches : Nat
  files : FileSystem

/-- Runs a request while nobody else acts. -/
def answer (origin : Origin) (path : Path) (fs : FileSystem) : Outcome :=
  let start : Request := { origin, path }
  let (r, files) := Request.run start.phase.rank start fs
  { answer := r.result?.getD (.error (.modelUnavailable "unfinished"))
    fetches := r.fetches
    files }

end SuiteLint.Model.Cache
