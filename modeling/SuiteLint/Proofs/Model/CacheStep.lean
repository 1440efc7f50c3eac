import SuiteLint.Proofs.Model.CacheFiles

/-!
# One step of a request

`Phase.Sound` says for every phase of a request what it may count on, and `Smooth` that the file
operation of its next step succeeds. `stepSpec_step` says what a smooth step of a sound request
does: the request is sound where it arrives, a file that was vouched for stays so, whoever has the
lock afterwards holds it, and a request without the lock spares everything that others look at.
-/

namespace SuiteLint.Model.Cache

variable {fs gs : FileSystem} {path : Path}

/-- The lock that a request has in its hand. -/
def Phase.lock? : Phase → Option Nat
  | readMarker (.locked lock) => some lock
  | readFile (.locked lock) _ => some lock
  | fetch lock => some lock
  | stageFile lock _ => some lock
  | publishFile lock _ => some lock
  | stageMarker lock _ => some lock
  | publishMarker lock _ => some lock
  | unlock lock _ => some lock
  | _ => none

/-- What a request may count on, by its phase: which marker it has read, whether the cache has been
found wanting, what it has written, and how often it has asked its origin. No phase that is reached
only by a failure or a timeout is sound. -/
def Phase.Sound (path : Path) (process : Nat) (fs : FileSystem) (fetches : Nat) : Phase → Prop
  | readMarker .first => fetches = 0
  | readFile .first digest =>
    fetches = 0 ∧ (Marked fs path digest ∨ ∃ bytes, Vouched fs path bytes)
  | takeLock => fetches = 0
  | readMarker (.locked _) => fetches = 0
  | readFile (.locked _) digest => fetches = 0 ∧ Marked fs path digest
  | fetch _ => fetches = 0 ∧ ¬∃ bytes, Vouched fs path bytes
  | stageFile _ _ => fetches = 1 ∧ ¬∃ bytes, Vouched fs path bytes
  | publishFile _ bytes =>
    fetches = 1 ∧ (¬∃ bytes, Vouched fs path bytes) ∧ fs.Holds (staging path process) bytes
  | stageMarker _ bytes => fetches = 1 ∧ fs.Holds path bytes
  | publishMarker _ bytes =>
    fetches = 1 ∧ fs.Holds path bytes ∧
      fs.Holds (staging (marker path) process) (Text.Utf8.encode (Digest.sha256Hex bytes))
  | unlock _ answer => fetches ≤ 1 ∧ ∃ bytes, answer = .ok bytes ∧ Vouched fs path bytes
  | done answer => fetches ≤ 1 ∧ ∃ bytes, answer = .ok bytes ∧ Vouched fs path bytes
  | _ => False

/-- The file operation of the next step succeeds. -/
def Smooth (r : Request) (fs : FileSystem) : Prop :=
  match r.phase with
  | .takeLock => ∀ error, (fs.acquire (lockFile r.path)).1 ≠ .error (.system error)
  | .stageFile _ bytes => (fs.stage r.path bytes).1 = .ok ()
  | .publishFile _ _ => (fs.publish r.path).1 = .ok ()
  | .stageMarker _ bytes =>
    (fs.stage (marker r.path) (Text.Utf8.encode (Digest.sha256Hex bytes))).1 = .ok ()
  | .publishMarker _ _ => (fs.publish (marker r.path)).1 = .ok ()
  | _ => True

/-- A change after which the cache says no less: what was vouched for still is, and a marker is
replaced only by one that vouches. -/
structure Advances (path : Path) (fs gs : FileSystem) : Prop where
  vouched : ∀ bytes, Vouched fs path bytes → Vouched gs path bytes
  marked : ∀ digest, Marked fs path digest →
    Marked gs path digest ∨ ∃ bytes, Vouched gs path bytes

/-- What a step does to its request, the files and the lock. -/
structure StepSpec (r : Request) (fs : FileSystem) (r' : Request) (gs : FileSystem) : Prop where
  path : r'.path = r.path
  origin : r'.origin = r.origin
  fetches : r.fetches ≤ r'.fetches
  /-- An origin is asked only with the lock in hand and when the cache has been found wanting. -/
  asked : r'.fetches ≠ r.fetches → r.phase.lock? ≠ none ∧ ¬∃ bytes, Vouched fs r.path bytes
  sound : r'.phase.Sound r.path fs.process gs r'.fetches
  advances : Advances r.path fs gs
  spares : r.phase.lock? = none → Spares r.path fs gs
  held : ∀ lock, r'.phase.lock? = some lock → Held gs r.path lock
  /-- A lock is taken only while nobody holds it. -/
  taken : r.phase.lock? = none → r'.phase.lock? ≠ none → ∀ lock, ¬Held fs r.path lock
  /-- A file comes to be vouched for only by a request that has asked its origin. -/
  caused : ∀ bytes, Vouched gs r.path bytes → Vouched fs r.path bytes ∨ r'.fetches ≠ 0

/-! ## Changes that say the same -/

theorem Advances.of_iff
    (hfile : ∀ content, gs.Holds path content ↔ fs.Holds path content)
    (hmarked : ∀ digest, Marked gs path digest ↔ Marked fs path digest) :
    Advances path fs gs :=
  ⟨fun _ h => ⟨(hfile _).mpr h.1, (hmarked _).mpr h.2⟩, fun _ h => Or.inl ((hmarked _).mpr h)⟩

theorem vouched_iff
    (hfile : ∀ content, gs.Holds path content ↔ fs.Holds path content)
    (hmarked : ∀ digest, Marked gs path digest ↔ Marked fs path digest) (bytes : List UInt8) :
    Vouched gs path bytes ↔ Vouched fs path bytes :=
  and_congr (hfile bytes) (hmarked _)

theorem Spares.marked_iff (h : Spares path fs gs) (digest : String) :
    Marked gs path digest ↔ Marked fs path digest :=
  marked_iff_of_holds_iff (h.holds _ .marker)

theorem Spares.vouched_iff (h : Spares path fs gs) (bytes : List UInt8) :
    Vouched gs path bytes ↔ Vouched fs path bytes :=
  Cache.vouched_iff (h.holds _ .file) h.marked_iff bytes

theorem Spares.advances (h : Spares path fs gs) : Advances path fs gs :=
  Advances.of_iff (h.holds _ .file) h.marked_iff

/-! ## Steps, by phase -/

section Steps

variable {r : Request}

/-- A step that only reads and keeps the lock as it is. -/
theorem stepSpec_goto {next : Phase}
    (hheld : ∀ lock, r.phase.lock? = some lock → Held fs r.path lock)
    (hlock : next.lock? = r.phase.lock?)
    (hsound : next.Sound r.path fs.process fs r.fetches) : StepSpec r fs (r.goto next) fs where
  path := rfl
  origin := rfl
  fetches := Nat.le_refl _
  asked := fun h => absurd rfl h
  sound := hsound
  advances := (Spares.refl r.path fs).advances
  spares := fun _ => Spares.refl r.path fs
  held := fun lock h => hheld lock (hlock ▸ h)
  taken := fun hnone htaken => absurd (hlock.trans hnone) htaken
  caused := fun _ h => Or.inl h

theorem stepSpec_readMarker_first (hphase : r.phase = .readMarker .first)
    (hfetches : r.fetches = 0) :
    StepSpec r fs (r.step true fs).1 (r.step true fs).2 := by
  have hheld : ∀ lock, r.phase.lock? = some lock → Held fs r.path lock := by
    rw [hphase]
    exact fun _ h => nomatch h
  simp only [Request.step, hphase]
  split
  · exact stepSpec_goto hheld (by rw [hphase]; rfl) hfetches
  · rename_i text htext
    exact stepSpec_goto hheld (by rw [hphase]; rfl)
      ⟨hfetches, Or.inl (marked_of_readText htext)⟩

/-- With the lock in its hand, a request that cannot read the marker knows that there is none. -/
theorem stepSpec_readMarker_locked {lock : Nat} (hphase : r.phase = .readMarker (.locked lock))
    (hlock : Held fs r.path lock) (hfetches : r.fetches = 0) :
    StepSpec r fs (r.step true fs).1 (r.step true fs).2 := by
  have hheld : ∀ other, r.phase.lock? = some other → Held fs r.path other := by
    rw [hphase]
    rintro other ⟨⟩
    exact hlock
  simp only [Request.step, hphase]
  split
  · rename_i error herror
    refine stepSpec_goto hheld (by rw [hphase]; rfl) ⟨hfetches, ?_⟩
    rintro ⟨bytes, hvouched⟩
    obtain ⟨-, text, htext, -⟩ := (vouched_iff_read hlock.directory).mp hvouched
    rw [htext] at herror
    cases herror
  · rename_i text htext
    exact stepSpec_goto hheld (by rw [hphase]; rfl) ⟨hfetches, marked_of_readText htext⟩

theorem stepSpec_readFile_first {digest : String} (hphase : r.phase = .readFile .first digest)
    (hfetches : r.fetches = 0)
    (hmarked : Marked fs r.path digest ∨ ∃ bytes, Vouched fs r.path bytes) :
    StepSpec r fs (r.step true fs).1 (r.step true fs).2 := by
  have hheld : ∀ lock, r.phase.lock? = some lock → Held fs r.path lock := by
    rw [hphase]
    exact fun _ h => nomatch h
  simp only [Request.step, hphase]
  split
  · exact stepSpec_goto hheld (by rw [hphase]; rfl) hfetches
  rename_i bytes hread
  have hholds := FileSystem.holds_of_read hread
  split
  · rename_i hdigest
    -- The marker may have been replaced since it was read, but then by one that vouches.
    have hvouched : Vouched fs r.path bytes := by
      rcases hmarked with hmarked | ⟨other, hother⟩
      · rw [← beq_iff_eq.mp hdigest] at hmarked
        exact ⟨hholds, hmarked⟩
      · rwa [hholds.unique hother.1]
    exact stepSpec_goto hheld (by rw [hphase]; rfl) ⟨by omega, bytes, rfl, hvouched⟩
  · exact stepSpec_goto hheld (by rw [hphase]; rfl) hfetches

theorem stepSpec_readFile_locked {lock : Nat} {digest : String}
    (hphase : r.phase = .readFile (.locked lock) digest) (hlock : Held fs r.path lock)
    (hfetches : r.fetches = 0) (hmarked : Marked fs r.path digest) :
    StepSpec r fs (r.step true fs).1 (r.step true fs).2 := by
  have hheld : ∀ other, r.phase.lock? = some other → Held fs r.path other := by
    rw [hphase]
    rintro other ⟨⟩
    exact hlock
  -- The directory is there, so a file that is vouched for would be read.
  have hvouched : ∀ bytes, Vouched fs r.path bytes →
      fs.read r.path = .ok bytes ∧ Digest.sha256Hex bytes = digest := fun bytes h =>
    ⟨((vouched_iff_read hlock.directory).mp h).1, h.2.unique hmarked⟩
  simp only [Request.step, hphase]
  split
  · rename_i error herror
    refine stepSpec_goto hheld (by rw [hphase]; rfl) ⟨hfetches, ?_⟩
    rintro ⟨bytes, h⟩
    rw [(hvouched bytes h).1] at herror
    cases herror
  rename_i bytes hread
  split
  · rename_i hdigest
    rw [← beq_iff_eq.mp hdigest] at hmarked
    exact stepSpec_goto hheld (by rw [hphase]; rfl)
      ⟨by omega, bytes, rfl, FileSystem.holds_of_read hread, hmarked⟩
  · rename_i hdigest
    refine stepSpec_goto hheld (by rw [hphase]; rfl) ⟨hfetches, ?_⟩
    rintro ⟨other, h⟩
    obtain ⟨hother, hsame⟩ := hvouched other h
    rw [hread] at hother
    cases hother
    exact hdigest (beq_iff_eq.mpr hsame)

theorem stepSpec_takeLock (hphase : r.phase = .takeLock) (hfetches : r.fetches = 0)
    (hsmooth : ∀ error, (fs.acquire (lockFile r.path)).1 ≠ .error (.system error)) :
    StepSpec r fs (r.step true fs).1 (r.step true fs).2 := by
  have hnone : r.phase.lock? = none := by
    rw [hphase]
    rfl
  simp only [Request.step, hphase, ↓reduceIte]
  split
  · rename_i lock mid hacquire
    rw [hacquire] at hsmooth
    obtain ⟨hspares, hresult⟩ := acquire_lock hacquire hsmooth
    obtain ⟨number, hnumber, hheld, hfree⟩ := hresult.resolve_left nofun
    cases hnumber
    refine ⟨rfl, rfl, Nat.le_refl _, fun h => absurd rfl h, hfetches, hspares.advances,
      fun _ => hspares, ?_, fun _ _ => hfree,
      fun bytes h => Or.inl ((hspares.vouched_iff bytes).mp h)⟩
    rintro other ⟨⟩
    exact hheld
  · rename_i mid hacquire
    rw [hacquire] at hsmooth
    obtain ⟨hspares, -⟩ := acquire_lock hacquire hsmooth
    refine ⟨rfl, rfl, Nat.le_refl _, fun h => absurd rfl h, ?_, hspares.advances,
      fun _ => hspares, ?_, ?_, fun bytes h => Or.inl ((hspares.vouched_iff bytes).mp h)⟩
    · show r.phase.Sound _ _ _ _
      rw [hphase]
      exact hfetches
    · intro lock hlock
      cases hnone.symm.trans hlock
    · exact fun _ htaken => absurd hnone htaken
  · rename_i error mid hacquire
    rw [hacquire] at hsmooth
    exact absurd rfl (hsmooth error)

theorem stepSpec_fetch {lock : Nat} (hphase : r.phase = .fetch lock) (hlock : Held fs r.path lock)
    (hfetches : r.fetches = 0) (hwanting : ¬∃ bytes, Vouched fs r.path bytes)
    (hfetch : ∃ bytes, r.origin.fetch = .ok bytes) :
    StepSpec r fs (r.step true fs).1 (r.step true fs).2 := by
  obtain ⟨bytes, hbytes⟩ := hfetch
  have hspares := Spares.refl r.path fs
  simp only [Request.step, hphase, hbytes]
  refine ⟨rfl, rfl, Nat.le_succ _, fun _ => ⟨?_, hwanting⟩, ⟨?_, hwanting⟩, hspares.advances,
    fun _ => hspares, ?_, ?_, fun _ h => Or.inl h⟩
  · rw [hphase]
    exact fun h => nomatch h
  · show r.fetches + 1 = 1
    omega
  · rintro other ⟨⟩
    exact hlock
  · rw [hphase]
    exact fun h => nomatch h

/-- A step on the files with the lock in hand. -/
theorem stepSpec_locked {next : Phase} {lock : Nat} (hphase : r.phase.lock? = some lock)
    (hnext : next.lock? = some lock) (hheld : Held gs r.path lock) (hfetches : r.fetches = 1)
    (hsound : next.Sound r.path fs.process gs 1) (hadvances : Advances r.path fs gs) :
    StepSpec r fs (r.goto next) gs where
  path := rfl
  origin := rfl
  fetches := Nat.le_refl _
  asked := fun h => absurd rfl h
  sound := by
    show next.Sound r.path fs.process gs r.fetches
    rw [hfetches]
    exact hsound
  advances := hadvances
  spares := fun h => nomatch hphase.symm.trans h
  held := by
    intro other h
    cases hnext.symm.trans h
    exact hheld
  taken := fun h => nomatch hphase.symm.trans h
  caused := by
    refine fun _ _ => Or.inr ?_
    show r.fetches ≠ 0
    omega

theorem outcome_eq_ok {α : Type} {outcome : FileSystem.Outcome α} {a : α}
    (h : outcome.1 = .ok a) : outcome = (.ok a, outcome.2) := by
  rw [← h]

theorem stepSpec_stageFile {lock : Nat} {bytes : List UInt8}
    (hphase : r.phase = .stageFile lock bytes) (hlock : Held fs r.path lock)
    (hfetches : r.fetches = 1) (hwanting : ¬∃ bytes, Vouched fs r.path bytes)
    (hsmooth : (fs.stage r.path bytes).1 = .ok ()) :
    StepSpec r fs (r.step true fs).1 (r.step true fs).2 := by
  have hstage := outcome_eq_ok hsmooth
  obtain ⟨hfile, hmarked, hstaged, hheld⟩ := stage_file hstage
  have hwanting' : ¬∃ other, Vouched (fs.stage r.path bytes).2 r.path other := by
    rintro ⟨other, h⟩
    exact hwanting ⟨other, (vouched_iff hfile hmarked other).mp h⟩
  simp only [Request.step, hphase]
  rw [hstage]
  exact stepSpec_locked (by rw [hphase]; rfl) rfl (hheld lock hlock) hfetches
    ⟨rfl, hwanting', hstaged⟩ (Advances.of_iff hfile hmarked)

theorem stepSpec_publishFile {lock : Nat} {bytes : List UInt8}
    (hphase : r.phase = .publishFile lock bytes) (hlock : Held fs r.path lock)
    (hfetches : r.fetches = 1) (hwanting : ¬∃ bytes, Vouched fs r.path bytes)
    (hstaged : fs.Holds (staging r.path fs.process) bytes)
    (hsmooth : (fs.publish r.path).1 = .ok ()) :
    StepSpec r fs (r.step true fs).1 (r.step true fs).2 := by
  have hpublish := outcome_eq_ok hsmooth
  obtain ⟨hfile, hmarked, hheld⟩ := publish_file hpublish hstaged
  -- The file is replaced, but nothing vouched for the old one.
  have hadvances : Advances r.path fs (fs.publish r.path).2 :=
    ⟨fun other h => absurd ⟨other, h⟩ hwanting, fun digest h => Or.inl ((hmarked digest).mpr h)⟩
  simp only [Request.step, hphase]
  rw [hpublish]
  exact stepSpec_locked (by rw [hphase]; rfl) rfl (hheld lock hlock) hfetches ⟨rfl, hfile⟩
    hadvances

theorem stepSpec_stageMarker {lock : Nat} {bytes : List UInt8}
    (hphase : r.phase = .stageMarker lock bytes) (hlock : Held fs r.path lock)
    (hfetches : r.fetches = 1) (hfile : fs.Holds r.path bytes)
    (hsmooth : (fs.stage (marker r.path) (Text.Utf8.encode (Digest.sha256Hex bytes))).1 = .ok ()) :
    StepSpec r fs (r.step true fs).1 (r.step true fs).2 := by
  have hstage := outcome_eq_ok hsmooth
  obtain ⟨hsame, hmarked, hstaged, hheld⟩ := stage_marker hstage
  simp only [Request.step, hphase]
  rw [hstage]
  exact stepSpec_locked (by rw [hphase]; rfl) rfl (hheld lock hlock) hfetches
    ⟨rfl, (hsame bytes).mpr hfile, hstaged⟩ (Advances.of_iff hsame hmarked)

/-- When the marker is renamed into its place, it vouches for the file that is there. -/
theorem stepSpec_publishMarker {lock : Nat} {bytes : List UInt8}
    (hphase : r.phase = .publishMarker lock bytes) (hlock : Held fs r.path lock)
    (hfetches : r.fetches = 1) (hfile : fs.Holds r.path bytes)
    (hstaged : fs.Holds (staging (marker r.path) fs.process)
      (Text.Utf8.encode (Digest.sha256Hex bytes)))
    (hsmooth : (fs.publish (marker r.path)).1 = .ok ()) :
    StepSpec r fs (r.step true fs).1 (r.step true fs).2 := by
  have hpublish := outcome_eq_ok hsmooth
  obtain ⟨hsame, hmarked, hheld⟩ := publish_marker hpublish hstaged
  have hvouched : Vouched (fs.publish (marker r.path)).2 r.path bytes :=
    ⟨(hsame bytes).mpr hfile, hmarked⟩
  have hadvances : Advances r.path fs (fs.publish (marker r.path)).2 := by
    refine ⟨fun other h => ?_, fun _ _ => Or.inr ⟨bytes, hvouched⟩⟩
    rwa [h.1.unique hfile]
  simp only [Request.step, hphase]
  rw [hpublish]
  exact stepSpec_locked (by rw [hphase]; rfl) rfl (hheld lock hlock) hfetches
    ⟨Nat.le_refl 1, bytes, rfl, hvouched⟩ hadvances

theorem stepSpec_unlock {lock : Nat} {answer : Answer} (hphase : r.phase = .unlock lock answer)
    (hfetches : r.fetches ≤ 1)
    (hanswer : ∃ bytes, answer = .ok bytes ∧ Vouched fs r.path bytes) :
    StepSpec r fs (r.step true fs).1 (r.step true fs).2 := by
  obtain ⟨bytes, rfl, hvouched⟩ := hanswer
  have hadvances : Advances r.path fs (fs.release lock) :=
    Advances.of_iff (fun _ => Iff.rfl) fun _ => Iff.rfl
  simp only [Request.step, hphase]
  refine ⟨rfl, rfl, Nat.le_refl _, fun h => absurd rfl h, ⟨hfetches, bytes, rfl, hvouched⟩,
    hadvances, ?_, ?_, ?_,
    fun _ h => Or.inl h⟩
  · rw [hphase]
    exact fun h => nomatch h
  · exact fun _ h => nomatch h
  · exact fun _ h => absurd rfl h

/-- What a smooth step of a sound request does. -/
theorem stepSpec_step (hsound : r.phase.Sound r.path fs.process fs r.fetches)
    (hheld : ∀ lock, r.phase.lock? = some lock → Held fs r.path lock)
    (hsmooth : Smooth r fs) (hfetch : ∃ bytes, r.origin.fetch = .ok bytes) :
    StepSpec r fs (r.step true fs).1 (r.step true fs).2 := by
  unfold Smooth at hsmooth
  cases hphase : r.phase with
  | readMarker occasion =>
      rw [hphase] at hsound hheld
      cases occasion with
      | first => exact stepSpec_readMarker_first hphase hsound
      | locked lock => exact stepSpec_readMarker_locked hphase (hheld lock rfl) hsound
      | waiting => exact hsound.elim
  | readFile occasion digest =>
      rw [hphase] at hsound hheld
      cases occasion with
      | first => exact stepSpec_readFile_first hphase hsound.1 hsound.2
      | locked lock =>
          exact stepSpec_readFile_locked hphase (hheld lock rfl) hsound.1 hsound.2
      | waiting => exact hsound.elim
  | takeLock =>
      rw [hphase] at hsound hsmooth
      exact stepSpec_takeLock hphase hsound hsmooth
  | fetch lock =>
      rw [hphase] at hsound hheld
      exact stepSpec_fetch hphase (hheld lock rfl) hsound.1 hsound.2 hfetch
  | stageFile lock bytes =>
      rw [hphase] at hsound hheld hsmooth
      exact stepSpec_stageFile hphase (hheld lock rfl) hsound.1 hsound.2 hsmooth
  | publishFile lock bytes =>
      rw [hphase] at hsound hheld hsmooth
      exact stepSpec_publishFile hphase (hheld lock rfl) hsound.1 hsound.2.1 hsound.2.2 hsmooth
  | stageMarker lock bytes =>
      rw [hphase] at hsound hheld hsmooth
      exact stepSpec_stageMarker hphase (hheld lock rfl) hsound.1 hsound.2 hsmooth
  | publishMarker lock bytes =>
      rw [hphase] at hsound hheld hsmooth
      exact stepSpec_publishMarker hphase (hheld lock rfl) hsound.1 hsound.2.1 hsound.2.2 hsmooth
  | unlock lock answer =>
      rw [hphase] at hsound
      exact stepSpec_unlock hphase hsound.1 hsound.2
  | await =>
      rw [hphase] at hsound
      exact hsound.elim
  | fetchOnly =>
      rw [hphase] at hsound
      exact hsound.elim
  | done answer =>
      have hgoto : r = r.goto (.done answer) := by
        rw [← hphase]
        rfl
      have hstep : r.step true fs = (r.goto (.done answer), fs) := by
        simp only [Request.step, hphase]
        rw [← hgoto]
      rw [hphase] at hsound
      rw [hstep]
      exact stepSpec_goto hheld (by rw [hphase]) hsound

end Steps

end SuiteLint.Model.Cache
