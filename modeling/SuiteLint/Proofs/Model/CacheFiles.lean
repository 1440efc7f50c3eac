import SuiteLint.Model.Cache
import SuiteLint.Proofs.FileSystem.Change
import SuiteLint.Proofs.Text.Utf8

/-!
# The files of a cache

What a cache says is told by two files: its marker is `Marked` with a digest, and vouches for the
cached file if that has the digest (`Vouched`). Beside them lie the lock file, which a request that
works on them has `Held`, and the files in which new contents are gathered. They are five different
places, so each operation of a request changes only what it means to (`stage_file`, `publish_file`,
`stage_marker`, `publish_marker`, `acquire_lock`).
-/

namespace SuiteLint.Model.Cache

open FileSystem (Keeps)

/-! ## Digests as text -/

theorem not_isBlank_hexDigit {n : Nat} (h : n < 16) :
    Text.isBlank (Text.Hex.digit n) = false := by
  have hall : ∀ m : Fin 16, Text.isBlank (Text.Hex.digit m) = false := by decide
  exact hall ⟨n, h⟩

theorem trimChars_of_not_isBlank {cs : List Char} (h : ∀ c ∈ cs, Text.isBlank c = false) :
    Text.trimChars cs = cs := by
  have hdrop : ∀ ds : List Char, (∀ c ∈ ds, Text.isBlank c = false) →
      ds.dropWhile Text.isBlank = ds := by
    intro ds hds
    cases ds with
    | nil => rfl
    | cons c ds => rw [List.dropWhile_cons_of_neg (by simp [hds c List.mem_cons_self])]
  rw [Text.trimChars, hdrop cs h, hdrop cs.reverse fun c hc => h c (List.mem_reverse.mp hc),
    List.reverse_reverse]

/-- A digest has no white space to lose. -/
theorem trim_sha256Hex (bytes : List UInt8) :
    Text.trim (Digest.sha256Hex bytes) = Digest.sha256Hex bytes := by
  have hdigits : ∀ c ∈ (Digest.sha256Hex bytes).toList, Text.isBlank c = false := by
    intro c hc
    rw [Digest.sha256Hex, Text.Hex.ofBytes, String.toList_ofList, List.mem_flatMap] at hc
    obtain ⟨b, -, hb⟩ := hc
    have hlt := b.toNat_lt
    rw [Text.Hex.byte, List.mem_cons, List.mem_singleton] at hb
    rcases hb with rfl | rfl
    · exact not_isBlank_hexDigit (by omega)
    · exact not_isBlank_hexDigit (by omega)
  rw [Text.trim, trimChars_of_not_isBlank hdigits, String.ofList_toList]

/-! ## The files beside a cached file -/

/-- Where a process gathers the content of a file. -/
def staging (p : Path) (process : Nat) : Path := p.sidecar s!"tmp.{process}"

theorem temporary_eq_staging (fs : FileSystem) (p : Path) :
    fs.temporary p = staging p fs.process := rfl

theorem staging_marker (path : Path) (process : Nat) :
    staging (marker path) process = path.sidecar ("ready." ++ s!"tmp.{process}") := by
  simp only [staging, marker, Path.sidecar, Path.mk.injEq, ← String.toList_inj,
    String.toList_append, List.append_assoc]
  rfl

theorem isExtension_ready : Path.IsExtension "ready" := ⟨by decide, by decide⟩

theorem isExtension_lock : Path.IsExtension "lock" := ⟨by decide, by decide⟩

theorem isExtension_readyTmp (process : Nat) :
    Path.IsExtension ("ready." ++ s!"tmp.{process}") := by
  have htmp := FileSystem.isExtension_tmp process
  constructor
  · rw [String.toList_append, List.mem_append, not_or]
    exact ⟨by decide, htmp.noSeparator⟩
  · rw [String.length_append]
    exact Nat.le_trans htmp.long (Nat.le_add_left _ _)

theorem ne_of_head?_ne {s t : String} (h : s.toList.head? ≠ t.toList.head?) : s ≠ t := by
  rintro rfl
  exact h rfl

theorem head?_tmp (process : Nat) : (s!"tmp.{process}").toList.head? = some 't' := by
  show ("tmp." ++ toString process).toList.head? = some 't'
  rw [String.toList_append]
  rfl

section Places

variable (fs : FileSystem) (path : Path) (process : Nat)

theorem placeOf_marker_ne : fs.placeOf (marker path) ≠ fs.placeOf path :=
  FileSystem.placeOf_sidecar_ne_self path isExtension_ready

theorem placeOf_lockFile_ne : fs.placeOf (lockFile path) ≠ fs.placeOf path :=
  FileSystem.placeOf_sidecar_ne_self path isExtension_lock

theorem placeOf_lockFile_ne_marker :
    fs.placeOf (lockFile path) ≠ fs.placeOf (marker path) :=
  FileSystem.placeOf_sidecar_ne path isExtension_lock isExtension_ready (by decide)

theorem placeOf_staging_ne : fs.placeOf (staging path process) ≠ fs.placeOf path :=
  FileSystem.placeOf_sidecar_ne_self path (FileSystem.isExtension_tmp process)

theorem placeOf_staging_ne_marker :
    fs.placeOf (staging path process) ≠ fs.placeOf (marker path) := by
  refine FileSystem.placeOf_sidecar_ne path (FileSystem.isExtension_tmp process) isExtension_ready ?_
  exact ne_of_head?_ne (by rw [head?_tmp]; decide)

theorem placeOf_staging_ne_lockFile :
    fs.placeOf (staging path process) ≠ fs.placeOf (lockFile path) := by
  refine FileSystem.placeOf_sidecar_ne path (FileSystem.isExtension_tmp process) isExtension_lock ?_
  exact ne_of_head?_ne (by rw [head?_tmp]; decide)

theorem placeOf_stagingMarker_ne :
    fs.placeOf (staging (marker path) process) ≠ fs.placeOf path := by
  rw [staging_marker]
  exact FileSystem.placeOf_sidecar_ne_self path (isExtension_readyTmp process)

theorem placeOf_stagingMarker_ne_marker :
    fs.placeOf (staging (marker path) process) ≠ fs.placeOf (marker path) :=
  FileSystem.placeOf_sidecar_ne_self (marker path) (FileSystem.isExtension_tmp process)

theorem placeOf_stagingMarker_ne_lockFile :
    fs.placeOf (staging (marker path) process) ≠ fs.placeOf (lockFile path) := by
  rw [staging_marker]
  refine FileSystem.placeOf_sidecar_ne path (isExtension_readyTmp process) isExtension_lock ?_
  exact ne_of_head?_ne (by simp)

end Places

/-! ## What a cache says -/

variable {fs gs : FileSystem} {path : Path}

/-- The marker holds a digest, with or without white space around it. -/
def Marked (fs : FileSystem) (path : Path) (digest : String) : Prop :=
  ∃ bytes text, fs.Holds (marker path) bytes ∧ Text.Utf8.decode bytes = .ok text ∧
    Text.trim text = digest

/-- The cached file has the digest that the marker holds. -/
def Vouched (fs : FileSystem) (path : Path) (bytes : List UInt8) : Prop :=
  fs.Holds path bytes ∧ Marked fs path (Digest.sha256Hex bytes)

theorem Marked.unique {d e : String} (hd : Marked fs path d) (he : Marked fs path e) : d = e := by
  obtain ⟨bytes, text, hholds, hdecode, rfl⟩ := hd
  obtain ⟨bytes', text', hholds', hdecode', rfl⟩ := he
  obtain rfl := hholds.unique hholds'
  rw [hdecode] at hdecode'
  cases hdecode'
  rfl

theorem Vouched.unique {b c : List UInt8} (hb : Vouched fs path b) (hc : Vouched fs path c) :
    b = c := hb.1.unique hc.1

theorem readText_eq_ok {p : Path} {text : String} :
    fs.readText p = .ok text ↔
      ∃ bytes, fs.read p = .ok bytes ∧ Text.Utf8.decode bytes = .ok text := by
  rw [FileSystem.readText]
  cases hread : fs.read p with
  | error e => simp
  | ok bytes => cases hdecode : Text.Utf8.decode bytes <;> simp [hdecode]

theorem marked_of_readText {text : String} (h : fs.readText (marker path) = .ok text) :
    Marked fs path (Text.trim text) := by
  obtain ⟨bytes, hread, hdecode⟩ := readText_eq_ok.mp h
  exact ⟨bytes, text, FileSystem.holds_of_read hread, hdecode, rfl⟩

/-- Once its directory is there, a marker that holds a digest can be read. -/
theorem readText_of_marked (hdir : fs.HasDirectory path) {digest : String}
    (h : Marked fs path digest) :
    ∃ text, fs.readText (marker path) = .ok text ∧ Text.trim text = digest := by
  obtain ⟨bytes, text, hholds, hdecode, htrim⟩ := h
  have hread := (FileSystem.read_sidecar_eq_ok_iff_holds isExtension_ready hdir).mpr hholds
  exact ⟨text, readText_eq_ok.mpr ⟨bytes, hread, hdecode⟩, htrim⟩

/-- Once its directory is there, a cache vouches for what reading its two files shows. -/
theorem vouched_iff_read (hdir : fs.HasDirectory path) {bytes : List UInt8} :
    Vouched fs path bytes ↔ fs.read path = .ok bytes ∧
      ∃ text, fs.readText (marker path) = .ok text ∧ Text.trim text = Digest.sha256Hex bytes := by
  rw [FileSystem.read_eq_ok_iff_holds hdir, Vouched]
  refine and_congr_right fun _ => ⟨readText_of_marked hdir, ?_⟩
  rintro ⟨text, hread, htrim⟩
  exact htrim ▸ marked_of_readText hread

theorem marked_of_holds_digest {bytes : List UInt8}
    (h : fs.Holds (marker path) (Text.Utf8.encode (Digest.sha256Hex bytes))) :
    Marked fs path (Digest.sha256Hex bytes) :=
  ⟨_, _, h, Text.Utf8.decode_encode _, trim_sha256Hex bytes⟩

theorem marked_iff_of_holds_iff
    (h : ∀ content, gs.Holds (marker path) content ↔ fs.Holds (marker path) content)
    {digest : String} : Marked gs path digest ↔ Marked fs path digest := by
  constructor
  · rintro ⟨bytes, text, hholds, hrest⟩
    exact ⟨bytes, text, (h bytes).mp hholds, hrest⟩
  · rintro ⟨bytes, text, hholds, hrest⟩
    exact ⟨bytes, text, (h bytes).mpr hholds, hrest⟩

/-! ## The lock -/

/-- The lock of a cache is held: its file is there, and its number is among the locked ones. -/
structure Held (fs : FileSystem) (path : Path) (lock : Nat) : Prop where
  directory : fs.HasDirectory path
  file : ∃ content, fs.node? (fs.placeOf (lockFile path)) = some (.file lock content)
  locked : lock ∈ fs.locked

theorem Held.withProcess {lock : Nat} (h : Held fs path lock) (process : Nat) :
    Held { fs with process } path lock :=
  ⟨h.directory.withProcess process, h.file, h.locked⟩

theorem Held.of_keeps {touched : Place → Prop} {lock : Nat} (h : Held fs path lock)
    (hkeeps : Keeps touched fs gs) (hlock : ¬touched (fs.placeOf (lockFile path))) :
    Held gs path lock := by
  obtain ⟨content, hfile⟩ := h.file
  refine ⟨hkeeps.hasDirectory h.directory, ⟨content, ?_⟩, ?_⟩
  · rw [hkeeps.placeOf]
    exact hkeeps.file hlock hfile
  · rw [hkeeps.locked]
    exact h.locked

/-! ## What operations do to a cache -/

/-- A file of a cache that has nothing to do with its lock. -/
inductive Content (path : Path) : Path → Prop
  | file : Content path path
  | marker : Content path (marker path)
  | staging (process : Nat) : Content path (staging path process)
  | stagingMarker (process : Nat) : Content path (staging (Cache.marker path) process)

/-- A change that nobody notices who reads the files of a cache or holds its lock. -/
structure Spares (path : Path) (fs gs : FileSystem) : Prop where
  holds : ∀ p, Content path p → ∀ content, gs.Holds p content ↔ fs.Holds p content
  held : ∀ lock, Held fs path lock → Held gs path lock

theorem Spares.refl (path : Path) (fs : FileSystem) : Spares path fs fs :=
  ⟨fun _ _ _ => Iff.rfl, fun _ h => h⟩

theorem placeOf_content_ne_lockFile {p : Path} (h : Content path p) :
    fs.placeOf p ≠ fs.placeOf (lockFile path) := by
  cases h with
  | file => exact (placeOf_lockFile_ne fs path).symm
  | marker => exact (placeOf_lockFile_ne_marker fs path).symm
  | staging process => exact placeOf_staging_ne_lockFile fs path process
  | stagingMarker process => exact placeOf_stagingMarker_ne_lockFile fs path process

/-- Taking the lock succeeds only if nobody holds it, and nobody else notices. -/
theorem acquire_lock {result : Except FileSystem.LockError Nat}
    (h : fs.acquire (lockFile path) = (result, gs))
    (hsystem : ∀ error, result ≠ .error (.system error)) :
    Spares path fs gs ∧ (result = .error .timeout ∨
      ∃ lock, result = .ok lock ∧ Held gs path lock ∧ ∀ other, ¬Held fs path other) := by
  rw [FileSystem.acquire] at h
  split at h
  · cases h
    exact absurd rfl (hsystem _)
  rename_i number mid hopen
  obtain ⟨hkeeps, hlocate, hfile⟩ := FileSystem.openLock_eq_ok hopen
  have hdir : mid.HasDirectory path :=
    FileSystem.hasDirectory_of_locate_sidecar isExtension_lock hlocate
  have hholds : ∀ p, Content path p → ∀ content, mid.Holds p content ↔ fs.Holds p content :=
    fun p hp _ => hkeeps.holds_iff fun hq => placeOf_content_ne_lockFile hp hq.1
  have hheld : ∀ lock, Held fs path lock → Held mid path lock := by
    intro lock hlock
    obtain ⟨content, hnode⟩ := hlock.file
    refine hlock.of_keeps hkeeps ?_
    rintro ⟨-, hnone⟩
    rw [hnode] at hnone
    cases hnone
  split at h
  · cases h
    exact ⟨⟨hholds, hheld⟩, Or.inl rfl⟩
  rename_i hfree
  cases h
  have hfree' : number ∉ mid.locked := by simpa using hfree
  refine ⟨⟨hholds, fun lock hlock => ?_⟩,
    Or.inr ⟨number, rfl, ⟨?_, ?_, ?_⟩, fun other hother => ?_⟩⟩
  · obtain ⟨hd, hf, hl⟩ := hheld lock hlock
    exact ⟨hd.withLocked _, hf, List.mem_cons_of_mem number hl⟩
  · exact hdir.withLocked _
  · rw [← hkeeps.placeOf] at hfile
    exact hfile
  · exact List.mem_cons_self
  · -- Whoever holds the lock holds the number of the lock file, which is free.
    obtain ⟨-, ⟨content, hnode⟩, hlocked⟩ := hheld other hother
    obtain ⟨content', hnode'⟩ := hfile
    rw [hkeeps.placeOf, hnode'] at hnode
    cases hnode
    exact hfree' hlocked

/-- Gathering a new content for the cached file changes nothing that a cache says. -/
theorem stage_file {bytes : List UInt8} (h : fs.stage path bytes = (.ok (), gs)) :
    (∀ content, gs.Holds path content ↔ fs.Holds path content) ∧
      (∀ digest, Marked gs path digest ↔ Marked fs path digest) ∧
        gs.Holds (staging path fs.process) bytes ∧
          ∀ lock, Held fs path lock → Held gs path lock := by
  obtain ⟨hkeeps, hstaged⟩ := FileSystem.stage_eq_ok h
  rw [temporary_eq_staging] at hkeeps hstaged
  refine ⟨fun _ => hkeeps.holds_iff ?_, fun _ => marked_iff_of_holds_iff fun _ =>
    hkeeps.holds_iff ?_, hstaged, fun _ hlock => hlock.of_keeps hkeeps ?_⟩
  · exact (placeOf_staging_ne fs path fs.process).symm
  · exact (placeOf_staging_ne_marker fs path fs.process).symm
  · exact (placeOf_staging_ne_lockFile fs path fs.process).symm

/-- The gathered content takes the place of the cached file; the marker stays. -/
theorem publish_file {bytes : List UInt8} (h : fs.publish path = (.ok (), gs))
    (hstaged : fs.Holds (staging path fs.process) bytes) :
    gs.Holds path bytes ∧ (∀ digest, Marked gs path digest ↔ Marked fs path digest) ∧
      ∀ lock, Held fs path lock → Held gs path lock := by
  obtain ⟨hkeeps, hfile⟩ := FileSystem.publish_eq_ok h hstaged
  rw [temporary_eq_staging] at hkeeps
  refine ⟨hfile, fun _ => marked_iff_of_holds_iff fun _ => hkeeps.holds_iff ?_,
    fun _ hlock => hlock.of_keeps hkeeps ?_⟩
  · exact not_or.mpr ⟨(placeOf_staging_ne_marker fs path fs.process).symm,
      placeOf_marker_ne fs path⟩
  · exact not_or.mpr ⟨(placeOf_staging_ne_lockFile fs path fs.process).symm,
      placeOf_lockFile_ne fs path⟩

/-- Gathering a new content for the marker changes nothing that a cache says. -/
theorem stage_marker {bytes : List UInt8} (h : fs.stage (marker path) bytes = (.ok (), gs)) :
    (∀ content, gs.Holds path content ↔ fs.Holds path content) ∧
      (∀ digest, Marked gs path digest ↔ Marked fs path digest) ∧
        gs.Holds (staging (marker path) fs.process) bytes ∧
          ∀ lock, Held fs path lock → Held gs path lock := by
  obtain ⟨hkeeps, hstaged⟩ := FileSystem.stage_eq_ok h
  rw [temporary_eq_staging] at hkeeps hstaged
  refine ⟨fun _ => hkeeps.holds_iff ?_, fun _ => marked_iff_of_holds_iff fun _ =>
    hkeeps.holds_iff ?_, hstaged, fun _ hlock => hlock.of_keeps hkeeps ?_⟩
  · exact (placeOf_stagingMarker_ne fs path fs.process).symm
  · exact (placeOf_stagingMarker_ne_marker fs path fs.process).symm
  · exact (placeOf_stagingMarker_ne_lockFile fs path fs.process).symm

/-- The gathered digest takes the place of the marker; the cached file stays. -/
theorem publish_marker {bytes : List UInt8} (h : fs.publish (marker path) = (.ok (), gs))
    (hstaged : fs.Holds (staging (marker path) fs.process)
      (Text.Utf8.encode (Digest.sha256Hex bytes))) :
    (∀ content, gs.Holds path content ↔ fs.Holds path content) ∧
      Marked gs path (Digest.sha256Hex bytes) ∧
        ∀ lock, Held fs path lock → Held gs path lock := by
  obtain ⟨hkeeps, hfile⟩ := FileSystem.publish_eq_ok h hstaged
  rw [temporary_eq_staging] at hkeeps
  refine ⟨fun _ => hkeeps.holds_iff ?_, marked_of_holds_digest hfile,
    fun _ hlock => hlock.of_keeps hkeeps ?_⟩
  · exact not_or.mpr ⟨(placeOf_stagingMarker_ne fs path fs.process).symm,
      (placeOf_marker_ne fs path).symm⟩
  · exact not_or.mpr ⟨(placeOf_stagingMarker_ne_lockFile fs path fs.process).symm,
      placeOf_lockFile_ne_marker fs path⟩

end SuiteLint.Model.Cache
