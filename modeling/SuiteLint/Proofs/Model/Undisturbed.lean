import SuiteLint.Proofs.Model.CacheFiles

/-!
# A request that nobody disturbs

`answer` runs a request step by step while nobody else acts. Each step brings the request closer to
its end (`rank_step_le`), so the run always ends, and it does not matter how many steps it is given
beyond those it needs (`run_eq_run`). Its course can therefore be told in larger pieces: to look for
a cached model (`ready?`), to ask the origin, and to keep what it gave (`keep`). `answer_eq_course`
says that this is what comes of it.

A request should fail only if the cache has no model and the origin gives none. That is so unless a
model cannot be written into the cache (`origin_decides_iff`). If it cannot, because a directory is
in the way for instance (`Blocked.cannotKeep`), the model that the origin gave is lost.
-/

namespace SuiteLint.Model.Cache

/-- The cached model, if its marker vouches for it. -/
def ready? (fs : FileSystem) (path : Path) : Option (List UInt8) :=
  match fs.readText (marker path), fs.read path with
  | .ok text, .ok bytes => if Digest.sha256Hex bytes == Text.trim text then some bytes else none
  | _, _ => none

/-- Writes a model into the cache, and then its marker. -/
def keep (fs : FileSystem) (path : Path) (bytes : List UInt8) : FileSystem.Outcome Unit :=
  match fs.atomicWrite path bytes with
  | (.error error, fs) => (.error error, fs)
  | (.ok (), fs) => fs.atomicWrite (marker path) (Text.Utf8.encode (Digest.sha256Hex bytes))

namespace Request

variable {r : Request} {fs : FileSystem}

/-! ## Runs end -/

theorem rank_proceed_le (lock : Nat) {next : Phase} {n : Nat} (hnext : next.rank ≤ n) (hn : 2 ≤ n)
    (outcome : FileSystem.Outcome Unit) : (r.proceed lock next outcome).1.phase.rank ≤ n := by
  obtain ⟨result, fs⟩ := outcome
  cases result with
  | ok => exact hnext
  | error error => exact hn

theorem rank_step_le (r : Request) (fs : FileSystem) :
    (r.step false fs).1.phase.rank ≤ r.phase.rank - 1 := by
  cases hphase : r.phase with
  | readMarker occasion =>
      simp only [step, hphase]
      split <;> cases occasion <;> exact Nat.le_of_ble_eq_true rfl
  | readFile occasion expected =>
      simp only [step, hphase]
      split
      · cases occasion <;> exact Nat.le_of_ble_eq_true rfl
      · split <;> cases occasion <;> exact Nat.le_of_ble_eq_true rfl
  | takeLock | fetch | await =>
      simp only [step, hphase]
      split <;> exact Nat.le_of_ble_eq_true rfl
  | stageFile lock bytes | publishFile lock bytes | stageMarker lock bytes
  | publishMarker lock bytes =>
      simp only [step, hphase]
      exact rank_proceed_le lock (Nat.le_of_ble_eq_true rfl) (Nat.le_of_ble_eq_true rfl) _
  | unlock | fetchOnly =>
      simp only [step, hphase]
      exact Nat.zero_le _
  | done answer =>
      simp only [step, hphase]
      exact Nat.le_refl 0

theorem step_of_rank_eq_zero (h : r.phase.rank = 0) : r.step false fs = (r, fs) := by
  cases hphase : r.phase with
  | done answer => simp only [step, hphase]
  | readMarker occasion | readFile occasion expected =>
      rw [hphase] at h
      cases occasion <;> exact absurd h (Nat.succ_ne_zero _)
  | _ =>
      rw [hphase] at h
      exact absurd h (Nat.succ_ne_zero _)

theorem run_of_rank_eq_zero (h : r.phase.rank = 0) (n : Nat) : run n r fs = (r, fs) := by
  induction n with
  | zero => rfl
  | succ n ih =>
      rw [run, step_of_rank_eq_zero h]
      exact ih

/-- A run that is given enough steps does not depend on how many they are. -/
theorem run_eq_run {n m : Nat} (hn : r.phase.rank ≤ n) (hm : r.phase.rank ≤ m) :
    run n r fs = run m r fs := by
  induction n generalizing m r fs with
  | zero =>
      have hzero := Nat.le_zero.mp hn
      rw [run_of_rank_eq_zero hzero, run_of_rank_eq_zero hzero]
  | succ n ih =>
      cases m with
      | zero =>
          have hzero := Nat.le_zero.mp hm
          rw [run_of_rank_eq_zero hzero, run_of_rank_eq_zero hzero]
      | succ m =>
          have hstep := rank_step_le r fs
          show run n (r.step false fs).1 (r.step false fs).2 =
            run m (r.step false fs).1 (r.step false fs).2
          exact ih (by omega) (by omega)

/-- What comes of a request while nobody else acts. -/
def outcome (r : Request) (fs : FileSystem) : Outcome :=
  let (r', files) := run r.phase.rank r fs
  { answer := r'.result?.getD (.error (.modelUnavailable "unfinished"))
    fetches := r'.fetches
    files }

theorem outcome_step (r : Request) (fs : FileSystem) :
    r.outcome fs = (r.step false fs).1.outcome (r.step false fs).2 := by
  have hrank := rank_step_le r fs
  have hrun : run r.phase.rank r fs =
      run (r.step false fs).1.phase.rank (r.step false fs).1 (r.step false fs).2 :=
    calc run r.phase.rank r fs = run (r.phase.rank + 1) r fs :=
          run_eq_run (Nat.le_refl _) (Nat.le_succ _)
      _ = run r.phase.rank (r.step false fs).1 (r.step false fs).2 := rfl
      _ = _ := run_eq_run (by omega) (Nat.le_refl _)
  rw [outcome, hrun]
  rfl

/-! ## The pieces of a request -/

section Goto

variable (r : Request) (phase : Phase)

@[simp] theorem goto_phase : (r.goto phase).phase = phase := rfl

@[simp] theorem goto_path : (r.goto phase).path = r.path := rfl

@[simp] theorem goto_origin : (r.goto phase).origin = r.origin := rfl

@[simp] theorem goto_goto (next : Phase) : (r.goto phase).goto next = r.goto next := rfl

@[simp] theorem goto_hit (bytes : List UInt8) (occasion : Occasion) :
    (r.goto phase).hit bytes occasion = r.hit bytes occasion := by
  cases occasion <;> rfl

@[simp] theorem goto_miss (occasion : Occasion) :
    (r.goto phase).miss occasion = r.miss occasion := by
  cases occasion <;> rfl

end Goto

theorem outcome_finish (r : Request) (answer : Answer) (fs : FileSystem) :
    (r.finish answer).outcome fs = ⟨answer.mapError r.explain, r.fetches, fs⟩ := rfl

theorem outcome_finishLocked (r : Request) (lock : Nat) (answer : Answer) (fs : FileSystem) :
    (r.finishLocked lock answer).outcome fs =
      ⟨answer.mapError r.explain, r.fetches, fs.release lock⟩ := by
  rw [outcome_step]
  rfl

theorem outcome_readMarker (r : Request) (occasion : Occasion) (fs : FileSystem) :
    (r.goto (.readMarker occasion)).outcome fs =
      match ready? fs r.path with
      | some bytes => (r.hit bytes occasion).outcome fs
      | none => (r.miss occasion).outcome fs := by
  rw [outcome_step]
  simp only [step, goto_phase, goto_path, ready?]
  cases fs.readText (marker r.path) with
  | error error => simp only [goto_miss]
  | ok text =>
      simp only [goto_goto]
      rw [outcome_step]
      simp only [step, goto_phase, goto_path]
      cases fs.read r.path with
      | error error => simp only [goto_miss]
      | ok bytes => by_cases hdigest : Digest.sha256Hex bytes == Text.trim text <;> simp [hdigest]

/-- What comes of a request with the lock in its hand behind an operation on files. -/
def outcomeBehind (r : Request) (lock : Nat) (next : Phase) :
    FileSystem.Outcome Unit → Outcome
  | (.ok (), gs) => (r.goto next).outcome gs
  | (.error error, gs) => ⟨.error (r.explain (.io error.message)), r.fetches, gs.release lock⟩

theorem outcome_proceed (r : Request) (phase : Phase) (lock : Nat) (next : Phase)
    (written : FileSystem.Outcome Unit) :
    ((r.goto phase).proceed lock next written).1.outcome
        ((r.goto phase).proceed lock next written).2 = r.outcomeBehind lock next written := by
  obtain ⟨result, gs⟩ := written
  cases result with
  | ok => rfl
  | error error => exact outcome_finishLocked r lock _ gs

/-- To gather a content and to put it in its place are the two halves of an atomic write. -/
theorem outcomeBehind_stage (r : Request) (lock : Nat) {publishing next : Phase} {path : Path}
    (hpublish : ∀ gs, (r.goto publishing).outcome gs =
      r.outcomeBehind lock next (gs.publish path))
    (content : List UInt8) (fs : FileSystem) :
    r.outcomeBehind lock publishing (fs.stage path content) =
      r.outcomeBehind lock next (fs.atomicWrite path content) := by
  rw [FileSystem.atomicWrite]
  cases fs.stage path content with
  | mk result mid =>
      cases result with
      | error error => rfl
      | ok => exact hpublish mid

theorem outcome_stageFile (r : Request) (lock : Nat) (bytes : List UInt8) (fs : FileSystem) :
    (r.goto (.stageFile lock bytes)).outcome fs =
      r.outcomeBehind lock (.stageMarker lock bytes) (fs.atomicWrite r.path bytes) := by
  rw [outcome_step]
  simp only [step, goto_phase, goto_path, outcome_proceed]
  refine outcomeBehind_stage r lock (fun gs => ?_) bytes fs
  rw [outcome_step]
  simp only [step, goto_phase, goto_path, outcome_proceed]

theorem outcome_stageMarker (r : Request) (lock : Nat) (bytes : List UInt8) (fs : FileSystem) :
    (r.goto (.stageMarker lock bytes)).outcome fs =
      r.outcomeBehind lock (.unlock lock (.ok bytes))
        (fs.atomicWrite (marker r.path) (Text.Utf8.encode (Digest.sha256Hex bytes))) := by
  rw [outcome_step]
  simp only [step, goto_phase, goto_path, outcome_proceed]
  refine outcomeBehind_stage r lock (fun gs => ?_) _ fs
  rw [outcome_step]
  simp only [step, goto_phase, goto_path, outcome_proceed]

theorem outcome_keep (r : Request) (lock : Nat) (bytes : List UInt8) (fs : FileSystem) :
    (r.goto (.stageFile lock bytes)).outcome fs =
      r.outcomeBehind lock (.unlock lock (.ok bytes)) (keep fs r.path bytes) := by
  rw [outcome_stageFile, keep]
  cases fs.atomicWrite r.path bytes with
  | mk result mid =>
      cases result with
      | error error => rfl
      | ok => exact outcome_stageMarker r lock bytes mid

end Request

/-! ## The course of a request -/

/-- What comes of a request that asks the origin and keeps nothing. -/
def unkept (r : Request) (fs : FileSystem) : Outcome :=
  ⟨r.origin.fetch.mapError r.explain, r.fetches + 1, fs⟩

/-- What comes of a request that has the lock: it looks again, asks the origin, and keeps what that
gives. -/
def withLock (r : Request) (lock : Nat) (fs : FileSystem) : Outcome :=
  match ready? fs r.path with
  | some bytes => ⟨.ok bytes, r.fetches, fs.release lock⟩
  | none =>
    match r.origin.fetch with
    | .error failure => ⟨.error (r.explain failure), r.fetches + 1, fs.release lock⟩
    | .ok bytes =>
      match keep fs r.path bytes with
      | (.ok (), gs) => ⟨.ok bytes, r.fetches + 1, gs.release lock⟩
      | (.error error, gs) =>
        ⟨.error (r.explain (.io error.message)), r.fetches + 1, gs.release lock⟩

/-- What comes of a request that finds the lock taken. -/
def withoutLock (r : Request) (fs : FileSystem) : Outcome :=
  if fs.isFile (marker r.path) then
    match ready? fs r.path with
    | some bytes => ⟨.ok bytes, r.fetches, fs⟩
    | none => unkept r fs
  else unkept r fs

/-- What comes of a request, told in one piece. -/
def course (r : Request) (fs : FileSystem) : Outcome :=
  match ready? fs r.path with
  | some bytes => ⟨.ok bytes, r.fetches, fs⟩
  | none =>
    match fs.acquire (lockFile r.path) with
    | (.ok lock, fs) => withLock r lock fs
    | (.error .timeout, fs) => withoutLock r fs
    | (.error (.system _), fs) => unkept r fs

namespace Request

theorem outcome_fetchOnly (r : Request) (fs : FileSystem) :
    (r.goto .fetchOnly).outcome fs = unkept r fs := by
  rw [outcome_step]
  rfl

theorem outcome_locked (r : Request) (lock : Nat) (fs : FileSystem) :
    (r.goto (.readMarker (.locked lock))).outcome fs = withLock r lock fs := by
  rw [outcome_readMarker, withLock]
  cases ready? fs r.path with
  | some bytes => exact outcome_finishLocked r lock (.ok bytes) fs
  | none =>
      simp only [miss]
      rw [outcome_step]
      simp only [step, goto_phase, goto_origin]
      cases r.origin.fetch with
      | error failure =>
          exact outcome_finishLocked { r with fetches := r.fetches + 1 } lock (.error failure) fs
      | ok bytes =>
          refine (outcome_keep { r with fetches := r.fetches + 1 } lock bytes fs).trans ?_
          simp only
          cases keep fs r.path bytes with
          | mk result gs =>
              cases result with
              | error error => rfl
              | ok => exact outcome_finishLocked _ lock (.ok bytes) gs

theorem outcome_await (r : Request) (fs : FileSystem) :
    (r.goto .await).outcome fs = withoutLock r fs := by
  rw [outcome_step, withoutLock]
  by_cases hmarker : fs.isFile (marker r.path) = true
  · simp only [step, goto_phase, goto_path, goto_goto, hmarker, if_true]
    rw [outcome_readMarker]
    cases ready? fs r.path with
    | none => exact outcome_fetchOnly r fs
    | some bytes => exact outcome_finish r (.ok bytes) fs
  · simp only [step, goto_phase, goto_path, goto_goto, hmarker]
    exact outcome_fetchOnly r fs

end Request

theorem answer_eq_course (origin : Origin) (path : Path) (fs : FileSystem) :
    answer origin path fs = course { origin, path } fs := by
  have hstart : answer origin path fs =
      (Request.goto { origin, path } (.readMarker .first)).outcome fs := by
    simp only [answer, Request.outcome, Request.goto]
  rw [hstart, Request.outcome_readMarker, course]
  cases ready? fs path with
  | some bytes => exact Request.outcome_finish _ (.ok bytes) fs
  | none =>
      simp only [Request.miss]
      rw [Request.outcome_step]
      simp only [Request.step, Request.goto_phase, Request.goto_path, Request.goto_goto]
      cases fs.acquire (lockFile path) with
      | mk result gs =>
          cases result with
          | ok lock => exact Request.outcome_locked _ lock gs
          | error error =>
              cases error with
              | timeout => exact Request.outcome_await _ gs
              | system error => exact Request.outcome_fetchOnly _ gs

/-! ## Failures -/

/-- An outcome of a request is fair if it is a model, or the origin was asked and gave none. -/
def Fair (r : Request) (o : Outcome) : Prop :=
  (∃ bytes, o.answer = .ok bytes) ∨
    o.fetches = r.fetches + 1 ∧ ∃ cause, r.origin.fetch = .error cause

theorem fair_unkept (r : Request) (fs : FileSystem) : Fair r (unkept r fs) := by
  rw [Fair, unkept]
  cases r.origin.fetch with
  | ok bytes => exact .inl ⟨bytes, rfl⟩
  | error cause => exact .inr ⟨rfl, cause, rfl⟩

theorem fair_withoutLock (r : Request) (fs : FileSystem) : Fair r (withoutLock r fs) := by
  rw [withoutLock]
  split
  · split
    · rename_i bytes _
      exact .inl ⟨bytes, rfl⟩
    · exact fair_unkept r fs
  · exact fair_unkept r fs

theorem fair_withLock {r : Request} {fs : FileSystem} (lock : Nat)
    (hkeep : ∀ bytes error, ready? fs r.path = none → r.origin.fetch = .ok bytes →
      (keep fs r.path bytes).1 ≠ .error error) : Fair r (withLock r lock fs) := by
  rw [withLock]
  cases hready : ready? fs r.path with
  | some bytes => exact .inl ⟨bytes, rfl⟩
  | none =>
      cases hfetch : r.origin.fetch with
      | error cause => exact .inr ⟨rfl, cause, hfetch⟩
      | ok bytes =>
          simp only
          cases hkept : keep fs r.path bytes with
          | mk result gs =>
              cases result with
              | ok => exact .inl ⟨bytes, rfl⟩
              | error error => exact absurd (by rw [hkept]) (hkeep bytes error hready hfetch)

/-- A request has to ask its origin and gets a model, but cannot write it into the cache. -/
def CannotKeep (origin : Origin) (path : Path) (fs : FileSystem) : Prop :=
  ∃ lock locked bytes error,
    ready? fs path = none ∧ fs.acquire (lockFile path) = (.ok lock, locked) ∧
      ready? locked path = none ∧ origin.fetch = .ok bytes ∧
        (keep locked path bytes).1 = .error error

section Failures

variable {origin : Origin} {path : Path} {fs : FileSystem}

theorem fair_answer (h : ¬CannotKeep origin path fs) :
    Fair { origin, path } (answer origin path fs) := by
  rw [answer_eq_course, course]
  cases hready : ready? fs path with
  | some bytes => exact .inl ⟨bytes, rfl⟩
  | none =>
      cases hacquire : fs.acquire (lockFile path) with
      | mk result gs =>
          cases result with
          | ok lock =>
              refine fair_withLock lock fun bytes error hagain hfetch hkeep => ?_
              exact h ⟨lock, gs, bytes, error, hready, hacquire, hagain, hfetch, hkeep⟩
          | error error =>
              cases error with
              | timeout => exact fair_withoutLock _ gs
              | system error => exact fair_unkept _ gs

theorem fails_of_cannotKeep (h : CannotKeep origin path fs) :
    (answer origin path fs).fetches = 1 ∧
      ∃ failure, (answer origin path fs).answer = .error failure := by
  obtain ⟨lock, locked, bytes, error, hready, hacquire, hagain, hfetch, hkeep⟩ := h
  rw [answer_eq_course]
  simp only [course, withLock, hready, hacquire, hagain, hfetch]
  cases hwritten : keep locked path bytes with
  | mk result gs =>
      rw [hwritten] at hkeep
      cases hkeep
      exact ⟨rfl, _, rfl⟩

/-! ## Directories in the way -/

/-- A directory stands where the cached file or its marker belongs. -/
def Blocked (fs : FileSystem) (path : Path) : Prop :=
  fs.node? (fs.placeOf path) = some .directory ∨
    fs.node? (fs.placeOf (marker path)) = some .directory

theorem not_holds_of_directory {p : Path} {content : List UInt8}
    (h : fs.node? (fs.placeOf p) = some .directory) : ¬fs.Holds p content := by
  rintro ⟨-, number, hfile⟩
  rw [h] at hfile
  cases hfile

theorem Blocked.mono {gs : FileSystem} {touched : Place → Prop}
    (hkeeps : FileSystem.Keeps touched fs gs) (h : Blocked fs path) : Blocked gs path := by
  rw [Blocked, hkeeps.placeOf, hkeeps.placeOf]
  exact h.imp (hkeeps.directory _) (hkeeps.directory _)

theorem Blocked.ready?_eq_none (h : Blocked fs path) : ready? fs path = none := by
  rw [ready?]
  split
  · rename_i text bytes hmarker hfile
    obtain ⟨digest, hdigest, -⟩ := readText_eq_ok.mp hmarker
    rcases h with h | h
    · exact absurd (FileSystem.holds_of_read hfile) (not_holds_of_directory h)
    · exact absurd (FileSystem.holds_of_read hdigest) (not_holds_of_directory h)
  · rfl

theorem Blocked.keep_fails (h : Blocked fs path) (bytes : List UInt8) :
    ∃ error, (keep fs path bytes).1 = .error error := by
  rw [keep]
  cases hfile : fs.atomicWrite path bytes with
  | mk result mid =>
      cases result with
      | error error => exact ⟨error, rfl⟩
      | ok =>
          simp only
          obtain ⟨hkeeps, hholds⟩ := FileSystem.atomicWrite_eq_ok hfile
          -- The file could be written, so the directory is in the place of the marker.
          have hdir : mid.node? (mid.placeOf (marker path)) = some .directory :=
            (h.mono hkeeps).resolve_left fun hdir => not_holds_of_directory hdir hholds
          cases hmarker :
              mid.atomicWrite (marker path) (Text.Utf8.encode (Digest.sha256Hex bytes)) with
          | mk result gs =>
              cases result with
              | error error => exact ⟨error, rfl⟩
              | ok =>
                  obtain ⟨hkeeps', hholds'⟩ := FileSystem.atomicWrite_eq_ok hmarker
                  rw [← hkeeps'.placeOf] at hdir
                  exact absurd hholds' (not_holds_of_directory (hkeeps'.directory _ hdir))

theorem Blocked.of_acquire {lock : Nat} {locked : FileSystem} (h : Blocked fs path)
    (hacquire : fs.acquire (lockFile path) = (.ok lock, locked)) : Blocked locked path := by
  rw [FileSystem.acquire] at hacquire
  split at hacquire
  · cases hacquire
  rename_i number mid hopen
  have hmid : Blocked mid path := h.mono (FileSystem.openLock_eq_ok hopen).1
  split at hacquire
  · cases hacquire
  · cases hacquire
    exact hmid

/-- A directory in the way turns every model that the origin gives under the lock into a failure. -/
theorem Blocked.cannotKeep {lock : Nat} {bytes : List UInt8} (h : Blocked fs path)
    (hlock : (fs.acquire (lockFile path)).1 = .ok lock) (hfetch : origin.fetch = .ok bytes) :
    CannotKeep origin path fs := by
  have hacquire : fs.acquire (lockFile path) = (.ok lock, (fs.acquire (lockFile path)).2) :=
    Prod.ext hlock rfl
  have hlocked := h.of_acquire hacquire
  obtain ⟨error, hkeep⟩ := hlocked.keep_fails bytes
  exact ⟨lock, _, bytes, error, h.ready?_eq_none, hacquire, hlocked.ready?_eq_none, hfetch, hkeep⟩

end Failures

/-- Every failure comes after the origin was asked once. A request fails only with its origin, and
never while its origin delivers, exactly if it is not kept from writing a model into the cache. -/
theorem origin_decides_iff (origin : Origin) (path : Path) (fs : FileSystem) :
    (∀ failure, (answer origin path fs).answer = .error failure →
      (answer origin path fs).fetches = 1) ∧
    (((∀ failure, (answer origin path fs).answer = .error failure →
        (answer origin path fs).fetches = 1 ∧ ∃ cause, origin.fetch = .error cause) ∧
      (∀ bytes, origin.fetch = .ok bytes →
        ∃ given, (answer origin path fs).answer = .ok given)) ↔
      ¬CannotKeep origin path fs) := by
  have hblame (hcan : ¬CannotKeep origin path fs) (failure : Failure)
      (hfails : (answer origin path fs).answer = .error failure) :
      (answer origin path fs).fetches = 1 ∧ ∃ cause, origin.fetch = .error cause := by
    rcases fair_answer hcan with ⟨bytes, hok⟩ | hasked
    · rw [hok] at hfails
      cases hfails
    · exact hasked
  refine ⟨fun failure hfails => ?_, ?_, fun hcan => ⟨hblame hcan, fun bytes hfetch => ?_⟩⟩
  · by_cases hcannot : CannotKeep origin path fs
    · exact (fails_of_cannotKeep hcannot).1
    · exact (hblame hcannot failure hfails).1
  · rintro ⟨-, hdelivers⟩ hcannot
    obtain ⟨-, failure, hfails⟩ := fails_of_cannotKeep hcannot
    obtain ⟨-, -, bytes, -, -, -, -, hfetch, -⟩ := hcannot
    obtain ⟨given, hgiven⟩ := hdelivers bytes hfetch
    rw [hgiven] at hfails
    cases hfails
  · rcases fair_answer hcan with hok | ⟨-, cause, hcause⟩
    · exact hok
    · rw [show origin.fetch = .error cause from hcause] at hfetch
      cases hfetch

/-- A tree in which a directory stands where a model is to be cached. -/
def occupied : FileSystem := { nodes := [(["d"], .directory)] }

theorem acquire_occupied : (occupied.acquire (lockFile ⟨"d"⟩)).1 = .ok 0 := by
  have hparent : occupied.ensureParent (lockFile ⟨"d"⟩) = (.ok (), occupied) := rfl
  have hlocate : occupied.locate (lockFile ⟨"d"⟩) = .ok ["d.lock"] :=
    FileSystem.locate_name rfl (by decide) (by decide) (by decide) (by decide) (by decide)
  simp only [FileSystem.acquire, FileSystem.openLock, FileSystem.openFile, hparent, hlocate]
  rfl

theorem fails_at_occupied :
    (Origin.custom "fake" (.ok [109, 49])).fetch = .ok [109, 49] ∧
      (answer (.custom "fake" (.ok [109, 49])) ⟨"d"⟩ occupied).fetches = 1 ∧
        ∃ failure,
          (answer (.custom "fake" (.ok [109, 49])) ⟨"d"⟩ occupied).answer = .error failure := by
  have hblocked : Blocked occupied ⟨"d"⟩ := .inl (by decide)
  exact ⟨rfl, fails_of_cannotKeep (hblocked.cannotKeep acquire_occupied rfl)⟩

end SuiteLint.Model.Cache
