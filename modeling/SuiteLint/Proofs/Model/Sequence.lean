import SuiteLint.Proofs.Model.Interleaving
import SuiteLint.Proofs.Model.Undisturbed

/-!
# Requests one after the other

A request that finds the lock free leaves a cache that vouches for what it returned, or leaves the
cached file and its marker alone. It asks its origin only if the cache is `Wanting`. From then on
requests return the same bytes without asking their origins, until one of the two files is
modified: `Later` is what may happen in between, and `Later.vouched` is carried along it.
`requests_in_sequence` says the whole law.

What a path can be read as depends on the directories on its way, which may be missing before the
first request and may get lost again. The law is therefore told by what the two files hold: a
request sees that as soon as it `Reaches` the cache, because the directory is there, or because it
takes the lock and makes the directory.
-/

namespace SuiteLint.Model.Cache

variable {origin : Origin} {path : Path} {fs gs hs : FileSystem} {bytes : List UInt8} {lock : Nat}

/-! ## The cached model -/

theorem ready?_eq_some :
    ready? fs path = some bytes ↔ fs.read path = .ok bytes ∧
      ∃ text, fs.readText (marker path) = .ok text ∧ Text.trim text = Digest.sha256Hex bytes := by
  rw [ready?]
  cases fs.readText (marker path) with
  | error error => simp
  | ok text =>
      cases fs.read path with
      | error error => simp
      | ok found =>
          by_cases hdigest : Digest.sha256Hex found = Text.trim text
          · simp only [hdigest, beq_self_eq_true, if_true, Option.some.injEq, Except.ok.injEq]
            constructor
            · rintro rfl
              exact ⟨rfl, text, rfl, hdigest.symm⟩
            · exact fun h => h.1
          · simp only [beq_iff_eq, hdigest, if_false, Except.ok.injEq, reduceCtorEq, false_iff]
            rintro ⟨rfl, _, rfl, h⟩
            exact hdigest h.symm

theorem vouched_of_ready? (h : ready? fs path = some bytes) : Vouched fs path bytes := by
  obtain ⟨hread, text, htext, htrim⟩ := ready?_eq_some.mp h
  exact ⟨FileSystem.holds_of_read hread, htrim ▸ marked_of_readText htext⟩

theorem ready?_of_vouched (hdir : fs.HasDirectory path) (h : Vouched fs path bytes) :
    ready? fs path = some bytes :=
  ready?_eq_some.mpr ((vouched_iff_read hdir).mp h)

theorem hasDirectory_of_ready? (h : ready? fs path = some bytes) : fs.HasDirectory path := by
  obtain ⟨-, text, htext, -⟩ := ready?_eq_some.mp h
  obtain ⟨content, hread, -⟩ := readText_eq_ok.mp htext
  obtain ⟨place, number, hlookup⟩ := FileSystem.read_eq_ok.mp hread
  exact FileSystem.hasDirectory_of_locate_sidecar isExtension_ready
    (FileSystem.lookup_eq_ok.mp hlookup).1

/-! ## What a request does to the files -/

theorem held_acquire (h : (fs.acquire (lockFile path)).1 = .ok lock) :
    Held (fs.acquire (lockFile path)).2 path lock := by
  have hacquire : fs.acquire (lockFile path) = (.ok lock, (fs.acquire (lockFile path)).2) :=
    Prod.ext h rfl
  obtain ⟨-, hresult⟩ := acquire_lock hacquire nofun
  obtain ⟨number, hnumber, hheld, -⟩ := hresult.resolve_left nofun
  cases hnumber
  exact hheld

/-- To try to take a lock does no more to the files than to open the lock file, whatever comes of
it. -/
theorem acquire_eq_openLock (fs : FileSystem) (p : Path) :
    ∃ locked, (fs.acquire p).2 = { (fs.openLock p).2 with locked } := by
  rw [FileSystem.acquire]
  split
  · rename_i hopen
    rw [hopen]
    exact ⟨_, rfl⟩
  · rename_i hopen
    rw [hopen]
    split <;> exact ⟨_, rfl⟩

/-- The same file, with the same content, stands where a path leads, or none does. -/
def SameFile (p : Path) (fs gs : FileSystem) : Prop :=
  ∀ number content, gs.node? (gs.placeOf p) = some (.file number content) ↔
    fs.node? (fs.placeOf p) = some (.file number content)

theorem SameFile.holds_iff {p : Path} (h : SameFile p fs gs) (content : List UInt8) :
    gs.Holds p content ↔ fs.Holds p content :=
  and_congr_right fun _ => exists_congr fun number => h number content

theorem sameFile_acquire {p : Path} (hp : fs.placeOf p ≠ fs.placeOf (lockFile path)) :
    SameFile p fs (fs.acquire (lockFile path)).2 := by
  intro number content
  have hkeeps := FileSystem.openLock_keeps fs (lockFile path)
  obtain ⟨locked, hfiles⟩ := acquire_eq_openLock fs (lockFile path)
  rw [hfiles]
  show (fs.openLock (lockFile path)).2.node? ((fs.openLock (lockFile path)).2.placeOf p) = _ ↔ _
  rw [hkeeps.placeOf]
  rcases hkeeps.node _ hp with heq | ⟨hnone, hdir⟩
  · rw [heq]
  · rw [hnone, hdir]
    simp

theorem vouched_release : Vouched (fs.release lock) path bytes ↔ Vouched fs path bytes := Iff.rfl

/-- A model that could be kept is vouched for. -/
theorem vouched_of_keep (h : keep fs path bytes = (.ok (), gs)) (hdir : fs.HasDirectory path) :
    Vouched gs path bytes ∧ gs.HasDirectory path := by
  rw [keep] at h
  split at h
  · cases h
  rename_i mid hfile
  obtain ⟨hkeeps, hholds⟩ := FileSystem.atomicWrite_eq_ok hfile
  obtain ⟨hkeeps', hmarker⟩ := FileSystem.atomicWrite_eq_ok h
  rw [temporary_eq_staging] at hkeeps'
  refine ⟨⟨(hkeeps'.holds_iff ?_).mpr hholds, marked_of_holds_digest hmarker⟩,
    hkeeps'.hasDirectory (hkeeps.hasDirectory hdir)⟩
  exact not_or.mpr ⟨(placeOf_stagingMarker_ne mid path mid.process).symm,
    (placeOf_marker_ne mid path).symm⟩

/-! ## The course of a request, case by case -/

theorem answer_of_ready? (h : ready? fs path = some bytes) :
    answer origin path fs = ⟨.ok bytes, 0, fs⟩ := by
  rw [answer_eq_course, course]
  simp only [h]

theorem answer_of_acquire (hnone : ready? fs path = none)
    (hlock : (fs.acquire (lockFile path)).1 = .ok lock) :
    answer origin path fs = withLock { origin, path } lock (fs.acquire (lockFile path)).2 := by
  have hacquire : fs.acquire (lockFile path) = (.ok lock, (fs.acquire (lockFile path)).2) :=
    Prod.ext hlock rfl
  rw [answer_eq_course, course]
  simp only [hnone]
  rw [hacquire]

theorem files_withoutLock (r : Request) (fs : FileSystem) : (withoutLock r fs).files = fs := by
  rw [withoutLock]
  split
  · split <;> rfl
  · rfl

theorem withLock_of_ready? (r : Request) (h : ready? fs r.path = some bytes) :
    withLock r lock fs = ⟨.ok bytes, r.fetches, fs.release lock⟩ := by
  rw [withLock]
  simp only [h]

theorem withLock_of_failure (r : Request) {cause : Failure} (hnone : ready? fs r.path = none)
    (hfetch : r.origin.fetch = .error cause) :
    withLock r lock fs = ⟨.error (r.explain cause), r.fetches + 1, fs.release lock⟩ := by
  rw [withLock]
  simp only [hnone, hfetch]

theorem withLock_of_keep (r : Request) (hnone : ready? fs r.path = none)
    (hfetch : r.origin.fetch = .ok bytes) (hkeep : keep fs r.path bytes = (.ok (), gs)) :
    withLock r lock fs = ⟨.ok bytes, r.fetches + 1, gs.release lock⟩ := by
  rw [withLock]
  simp only [hnone, hfetch, hkeep]

theorem fetches_withLock (r : Request) (hnone : ready? fs r.path = none) :
    (withLock r lock fs).fetches = r.fetches + 1 := by
  rw [withLock]
  simp only [hnone]
  split
  · rfl
  · split <;> rfl

/-- What a request returns with the lock in its hand is vouched for when it gives the lock back. -/
theorem vouched_of_withLock {r : Request} (hdir : fs.HasDirectory r.path)
    (h : (withLock r lock fs).answer = .ok bytes) :
    Vouched (withLock r lock fs).files r.path bytes ∧
      (withLock r lock fs).files.HasDirectory r.path := by
  cases hready : ready? fs r.path with
  | some found =>
      rw [withLock_of_ready? r hready] at h ⊢
      cases h
      exact ⟨vouched_release.mpr (vouched_of_ready? hready), hdir.withLocked _⟩
  | none =>
      cases hfetch : r.origin.fetch with
      | error cause =>
          rw [withLock_of_failure r hready hfetch] at h
          cases h
      | ok given =>
          cases hkeep : keep fs r.path given with
          | mk result gs =>
              cases result with
              | error error =>
                  simp only [withLock, hready, hfetch, hkeep] at h
                  cases h
              | ok =>
                  rw [withLock_of_keep r hready hfetch hkeep] at h ⊢
                  cases h
                  obtain ⟨hvouched, hdir'⟩ := vouched_of_keep hkeep hdir
                  exact ⟨vouched_release.mpr hvouched, hdir'.withLocked _⟩

/-! ## A request for a model that is vouched for -/

/-- A request gets at the cached file: its directory is there, or the lock can be taken. -/
def Reaches (path : Path) (fs : FileSystem) : Prop :=
  fs.HasDirectory path ∨ ∃ lock, (fs.acquire (lockFile path)).1 = .ok lock

/-- Neither the cached file nor its marker is modified. -/
structure Unmodified (path : Path) (fs gs : FileSystem) : Prop where
  file : ∀ content, gs.Holds path content ↔ fs.Holds path content
  marker : ∀ content, gs.Holds (marker path) content ↔ fs.Holds (marker path) content

theorem Unmodified.vouched_iff (h : Unmodified path fs gs) (bytes : List UInt8) :
    Vouched gs path bytes ↔ Vouched fs path bytes :=
  Cache.vouched_iff h.file (fun _ => marked_iff_of_holds_iff h.marker) bytes

theorem unmodified_acquire (path : Path) (fs : FileSystem) :
    Unmodified path fs (fs.acquire (lockFile path)).2 where
  file := (sameFile_acquire (placeOf_lockFile_ne fs path).symm).holds_iff
  marker := (sameFile_acquire (placeOf_lockFile_ne_marker fs path).symm).holds_iff

theorem ready?_acquire (h : Vouched fs path bytes)
    (hlock : (fs.acquire (lockFile path)).1 = .ok lock) :
    ready? (fs.acquire (lockFile path)).2 path = some bytes :=
  ready?_of_vouched (held_acquire hlock).directory
    (((unmodified_acquire path fs).vouched_iff bytes).mpr h)

/-- A request returns what is vouched for, and does not ask its origin. -/
theorem answer_of_vouched (h : Vouched fs path bytes) (hreach : Reaches path fs) :
    (answer origin path fs).answer = .ok bytes ∧ (answer origin path fs).fetches = 0 := by
  cases hready : ready? fs path with
  | some found =>
      rw [answer_of_ready? hready, (vouched_of_ready? hready).unique h]
      exact ⟨rfl, rfl⟩
  | none =>
      -- The directory of the cache is missing: the request makes it as it takes the lock.
      have hmissing : ¬fs.HasDirectory path := fun hdir => by
        rw [ready?_of_vouched hdir h] at hready
        cases hready
      obtain ⟨lock, hlock⟩ := hreach.resolve_left hmissing
      rw [answer_of_acquire hready hlock,
        withLock_of_ready? { origin, path } (ready?_acquire h hlock)]
      exact ⟨rfl, rfl⟩

/-- A request leaves what is vouched for alone, even if it does not get at it. -/
theorem vouched_answer (origin : Origin) (h : Vouched fs path bytes) :
    Vouched (answer origin path fs).files path bytes := by
  have hlocked := ((unmodified_acquire path fs).vouched_iff bytes).mpr h
  cases hready : ready? fs path with
  | some found =>
      rw [answer_of_ready? hready]
      exact h
  | none =>
      cases hlock : (fs.acquire (lockFile path)).1 with
      | ok lock =>
          rw [answer_of_acquire hready hlock,
            withLock_of_ready? { origin, path } (ready?_acquire h hlock)]
          exact hlocked
      | error error =>
          have hacquire : fs.acquire (lockFile path) =
              (.error error, (fs.acquire (lockFile path)).2) := Prod.ext hlock rfl
          rw [answer_eq_course, course]
          simp only [hready]
          rw [hacquire]
          cases error with
          | timeout =>
              simp only [files_withoutLock]
              exact hlocked
          | system error => exact hlocked

/-- What may become of the files while requests for a path come and go, and nobody else modifies
the cached file or its marker. -/
inductive Later (path : Path) (fs : FileSystem) : FileSystem → Prop
  | now : Later path fs fs
  | request {gs : FileSystem} (h : Later path fs gs) (origin : Origin) :
    Later path fs (answer origin path gs).files
  | change {gs hs : FileSystem} (h : Later path fs gs) (hsame : Unmodified path gs hs) :
    Later path fs hs

theorem Later.vouched (h : Later path fs gs) (hvouched : Vouched fs path bytes) :
    Vouched gs path bytes := by
  induction h with
  | now => exact hvouched
  | request _ origin ih => exact vouched_answer origin ih
  | change _ hsame ih => exact (hsame.vouched_iff bytes).mpr ih

/-! ## A request that finds the lock free -/

/-- The marker is missing or unreadable, the cached file is missing, or its digest differs. -/
def Wanting (path : Path) (fs : FileSystem) : Prop :=
  (∀ digest, ¬Marked fs path digest) ∨ (∀ bytes, ¬fs.Holds path bytes) ∨
    ∃ digest bytes, Marked fs path digest ∧ fs.Holds path bytes ∧ Digest.sha256Hex bytes ≠ digest

theorem wanting_iff : Wanting path fs ↔ ¬∃ bytes, Vouched fs path bytes := by
  constructor
  · rintro hwanting ⟨bytes, hholds, hmarked⟩
    rcases hwanting with hnone | hnone | ⟨digest, found, hdigest, hfound, hne⟩
    · exact hnone _ hmarked
    · exact hnone _ hholds
    · obtain rfl := hfound.unique hholds
      exact hne (hmarked.unique hdigest)
  · intro hnone
    by_cases hmarked : ∃ digest, Marked fs path digest
    · by_cases hholds : ∃ bytes, fs.Holds path bytes
      · obtain ⟨digest, hdigest⟩ := hmarked
        obtain ⟨bytes, hbytes⟩ := hholds
        refine .inr (.inr ⟨digest, bytes, hdigest, hbytes, ?_⟩)
        rintro rfl
        exact hnone ⟨bytes, hbytes, hdigest⟩
      · exact .inr (.inl (not_exists.mp hholds))
    · exact .inl (not_exists.mp hmarked)

theorem ready?_of_wanting (h : Wanting path fs) : ready? fs path = none := by
  cases hready : ready? fs path with
  | none => rfl
  | some bytes => exact absurd ⟨bytes, vouched_of_ready? hready⟩ (wanting_iff.mp h)

theorem Wanting.acquire (h : Wanting path fs) :
    Wanting path (fs.acquire (lockFile path)).2 := by
  rw [wanting_iff] at h ⊢
  rintro ⟨bytes, hvouched⟩
  exact h ⟨bytes, ((unmodified_acquire path fs).vouched_iff bytes).mp hvouched⟩

section Free

variable (hlock : (fs.acquire (lockFile path)).1 = .ok lock)
include hlock

theorem fetches_answer (origin : Origin) :
    (answer origin path fs).fetches ≤ 1 ∧
      ((answer origin path fs).fetches ≠ 0 ↔ Wanting path fs) := by
  by_cases hwanting : Wanting path fs
  · rw [answer_of_acquire (ready?_of_wanting hwanting) hlock,
      fetches_withLock { origin, path } (ready?_of_wanting hwanting.acquire)]
    exact ⟨Nat.le_refl 1, fun _ => hwanting, fun _ => Nat.one_ne_zero⟩
  · obtain ⟨bytes, hvouched⟩ := Classical.not_not.mp (mt wanting_iff.mpr hwanting)
    rw [(answer_of_vouched hvouched (.inr ⟨lock, hlock⟩)).2]
    exact ⟨Nat.zero_le 1, fun h => absurd rfl h, fun h => absurd h hwanting⟩

theorem vouched_of_answer (h : (answer origin path fs).answer = .ok bytes) :
    Vouched (answer origin path fs).files path bytes ∧
      (answer origin path fs).files.HasDirectory path := by
  cases hready : ready? fs path with
  | some found =>
      rw [answer_of_ready? hready] at h ⊢
      cases h
      exact ⟨vouched_of_ready? hready, hasDirectory_of_ready? hready⟩
  | none =>
      rw [answer_of_acquire hready hlock] at h ⊢
      exact vouched_of_withLock (held_acquire hlock).directory h

theorem sameFile_answer {cause : Failure} (hfetch : origin.fetch = .error cause) {p : Path}
    (hp : fs.placeOf p ≠ fs.placeOf (lockFile path)) :
    SameFile p fs (answer origin path fs).files := by
  cases hready : ready? fs path with
  | some found =>
      rw [answer_of_ready? hready]
      exact fun _ _ => Iff.rfl
  | none =>
      rw [answer_of_acquire hready hlock]
      cases hagain : ready? (fs.acquire (lockFile path)).2 path with
      | some found =>
          rw [withLock_of_ready? { origin, path } hagain]
          exact sameFile_acquire hp
      | none =>
          rw [withLock_of_failure { origin, path } hagain hfetch]
          exact sameFile_acquire hp

theorem answer_of_wanting (hwanting : Wanting path fs) :
    ready? (fs.acquire (lockFile path)).2 path = none ∧
      answer origin path fs = withLock { origin, path } lock (fs.acquire (lockFile path)).2 :=
  ⟨ready?_of_wanting hwanting.acquire, answer_of_acquire (ready?_of_wanting hwanting) hlock⟩

end Free

/-- A failure is unavailability of the model, and stays as it is if it was that before. -/
theorem explain_unavailable (r : Request) (cause : Failure) :
    ∃ text, r.explain cause = .modelUnavailable text ∧
      (r.explain cause = cause ↔ ∃ text, cause = .modelUnavailable text) := by
  cases cause with
  | modelUnavailable text => exact ⟨text, rfl, fun _ => ⟨text, rfl⟩, fun _ => rfl⟩
  | _ =>
      refine ⟨_, rfl, fun h => ?_, ?_⟩
      · cases h
      · rintro ⟨text, h⟩
        cases h

/-! ## A request in an empty tree -/

theorem proceed_snd (r : Request) (lock : Nat) (next : Phase) (outcome : FileSystem.Outcome Unit) :
    (r.proceed lock next outcome).2 = outcome.2 := by
  obtain ⟨result, fs⟩ := outcome
  cases result <;> rfl

namespace System

theorem acquire_coldTrace :
    (coldTrace 1).2.2.acquire (lockFile ⟨"m"⟩) = (.ok 0, (coldTrace 2).2.2) := by
  simp only [coldTrace, FileSystem.acquire, FileSystem.openLock, FileSystem.openFile,
    ensureParent_coldFiles, locate_coldFiles]
  rfl

theorem wanting_coldTrace : Wanting ⟨"m"⟩ (coldTrace 1).2.2 := by
  refine .inr (.inl ?_)
  rintro bytes ⟨-, number, hnode⟩
  have hnone : (coldTrace 1).2.2.node? ((coldTrace 1).2.2.placeOf ⟨"m"⟩) = none := by decide
  exact nomatch hnone.symm.trans hnode

theorem keep_coldTrace : keep (coldTrace 4).2.2 ⟨"m"⟩ [7] = (.ok (), (coldTrace 8).2.2) := by
  have hwritten {k : Nat} (hk : k < 9) {next : Phase} {outcome : FileSystem.Outcome Unit}
      (hok : outcome.1 = .ok ())
      (hstep : (coldRequest k).step true (coldTrace k).2.2 =
        (coldRequest k).proceed 0 next outcome) : outcome = (.ok (), (coldTrace (k + 1)).2.2) := by
    refine Prod.ext hok ?_
    rw [← proceed_snd (coldRequest k) 0 next, ← hstep, (step_coldRequest hk).2]
  have hstage : (coldTrace 4).2.2.stage ⟨"m"⟩ [7] = (.ok (), (coldTrace 5).2.2) :=
    hwritten (by decide : 4 < 9) (step_coldRequest (by decide : 4 < 9)).1 rfl
  have hpublish : (coldTrace 5).2.2.publish ⟨"m"⟩ = (.ok (), (coldTrace 6).2.2) :=
    hwritten (by decide : 5 < 9) (step_coldRequest (by decide : 5 < 9)).1 rfl
  have hstageMarker : (coldTrace 6).2.2.stage (marker ⟨"m"⟩)
      (Text.Utf8.encode (Digest.sha256Hex [7])) = (.ok (), (coldTrace 7).2.2) :=
    hwritten (by decide : 6 < 9) (step_coldRequest (by decide : 6 < 9)).1 rfl
  have hpublishMarker : (coldTrace 7).2.2.publish (marker ⟨"m"⟩) = (.ok (), (coldTrace 8).2.2) :=
    hwritten (by decide : 7 < 9) (step_coldRequest (by decide : 7 < 9)).1 rfl
  simp only [keep, FileSystem.atomicWrite, hstage, hpublish, hstageMarker, hpublishMarker]

end System

/-! ## The law of the cache -/

/-- A request that finds the lock free and returns a model leaves it in the cache, and from then on
requests return it without asking their origins. It asks its origin once if the cache is wanting,
and else not at all. If the origin fails, the cache is left as it was and the failure tells that the
model is unavailable; if the origin delivers and the model can be kept, the request returns it. -/
theorem requests_in_sequence (origin : Origin) (path : Path) (fs : FileSystem)
    (hlock : ∃ lock, (fs.acquire (lockFile path)).1 = .ok lock) :
    (∀ bytes, (answer origin path fs).answer = .ok bytes →
      ((answer origin path fs).files.read path = .ok bytes ∧
        ∃ text, (answer origin path fs).files.readText (marker path) = .ok text ∧
          Text.trim text = Digest.sha256Hex bytes) ∧
      ∀ gs, Later path (answer origin path fs).files gs → Reaches path gs →
        ∀ source, (answer source path gs).answer = .ok bytes ∧
          (answer source path gs).fetches = 0) ∧
    ((answer origin path fs).fetches ≤ 1 ∧
      ((answer origin path fs).fetches ≠ 0 ↔ Wanting path fs)) ∧
    (∀ cause, origin.fetch = .error cause →
      SameFile path fs (answer origin path fs).files ∧
      SameFile (marker path) fs (answer origin path fs).files ∧
      ((answer origin path fs).fetches ≠ 0 →
        ∃ failure, (answer origin path fs).answer = .error failure ∧
          (∃ text, failure = .modelUnavailable text) ∧
          (failure = cause ↔ ∃ text, cause = .modelUnavailable text))) ∧
    ∀ bytes, origin.fetch = .ok bytes → Wanting path fs →
      (keep (fs.acquire (lockFile path)).2 path bytes).1 = .ok () →
      (answer origin path fs).answer = .ok bytes := by
  obtain ⟨lock, hlock⟩ := hlock
  have hfetches := fetches_answer hlock origin
  refine ⟨fun bytes hok => ?_, hfetches, fun cause hfetch => ⟨?_, ?_, fun hasked => ?_⟩,
    fun bytes hfetch hwanting hkeep => ?_⟩
  · obtain ⟨hvouched, hdir⟩ := vouched_of_answer hlock hok
    refine ⟨(vouched_iff_read hdir).mp hvouched, fun gs hlater hreach source => ?_⟩
    exact answer_of_vouched (hlater.vouched hvouched) hreach
  · exact sameFile_answer hlock hfetch (placeOf_lockFile_ne fs path).symm
  · exact sameFile_answer hlock hfetch (placeOf_lockFile_ne_marker fs path).symm
  · obtain ⟨hnone, hanswer⟩ := answer_of_wanting hlock (hfetches.2.mp hasked)
    rw [hanswer, withLock_of_failure { origin, path } hnone hfetch]
    obtain ⟨text, htext, hsame⟩ := explain_unavailable { origin, path } cause
    exact ⟨_, rfl, ⟨text, htext⟩, hsame⟩
  · obtain ⟨hnone, hanswer⟩ := answer_of_wanting hlock hwanting
    rw [hanswer, withLock_of_keep { origin, path } hnone hfetch (Prod.ext hkeep rfl)]

/-- In an empty tree the first request fetches a model and keeps it, and the next one returns it
although its own origin fails. -/
theorem requests_in_sequence_coldTrace :
    (answer (.custom "first" (.ok [7])) ⟨"m"⟩ {}).answer = .ok [7] ∧
      (answer (.custom "second" (.error (.io "down"))) ⟨"m"⟩
        (answer (.custom "first" (.ok [7])) ⟨"m"⟩ {}).files).answer = .ok [7] := by
  have hlock : ((System.coldTrace 1).2.2.acquire (lockFile ⟨"m"⟩)).1 = .ok 0 :=
    congrArg Prod.fst System.acquire_coldTrace
  have hkeep : (keep ((System.coldTrace 1).2.2.acquire (lockFile ⟨"m"⟩)).2 ⟨"m"⟩ [7]).1 =
      .ok () := by
    rw [System.acquire_coldTrace]
    exact congrArg Prod.fst System.keep_coldTrace
  obtain ⟨hreturns, -, -, hdelivers⟩ :=
    requests_in_sequence (.custom "first" (.ok [7])) ⟨"m"⟩ (System.coldTrace 1).2.2 ⟨0, hlock⟩
  have hfirst := hdelivers [7] rfl System.wanting_coldTrace hkeep
  have hdir := (vouched_of_answer hlock hfirst).2
  exact ⟨hfirst, ((hreturns [7] hfirst).2 _ .now (.inl hdir) _).1⟩

end SuiteLint.Model.Cache
