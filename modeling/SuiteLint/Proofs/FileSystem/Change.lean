import SuiteLint.FileSystem.AtomicWrite
import SuiteLint.FileSystem.Lock
import SuiteLint.Proofs.FileSystem.Basic

/-!
# What operations leave alone

`Keeps touched fs gs` says that a change from `fs` to `gs` may put anything at the places `touched`
but elsewhere only makes directories where nothing stood. Everything that paths hold at other places
stays (`Keeps.holds_iff`), and so do the directories on the way. Every operation is described by
what it touches and what it puts there: `stage_eq_ok`, `publish_eq_ok` and `openLock_eq_ok` are the
ones that the cache is built from.
-/

namespace SuiteLint.FileSystem

/-- A change that touches only some places, apart from new directories. -/
structure Keeps (touched : Place → Prop) (fs gs : FileSystem) : Prop where
  workingDirectory : gs.workingDirectory = fs.workingDirectory
  process : gs.process = fs.process
  locked : gs.locked = fs.locked
  directory : ∀ q, fs.node? q = some .directory → gs.node? q = some .directory
  node : ∀ q, ¬touched q →
    gs.node? q = fs.node? q ∨ (fs.node? q = none ∧ gs.node? q = some .directory)

namespace Keeps

variable {touched touched' : Place → Prop} {fs gs hs : FileSystem}

theorem refl (touched : Place → Prop) (fs : FileSystem) : Keeps touched fs fs :=
  ⟨rfl, rfl, rfl, fun _ h => h, fun _ _ => Or.inl rfl⟩

theorem mono (h : Keeps touched fs gs) (hsub : ∀ q, touched q → touched' q) :
    Keeps touched' fs gs :=
  ⟨h.workingDirectory, h.process, h.locked, h.directory,
    fun q hq => h.node q fun hq' => hq (hsub q hq')⟩

theorem trans (h : Keeps touched fs gs) (h' : Keeps touched gs hs) : Keeps touched fs hs := by
  refine ⟨h'.workingDirectory.trans h.workingDirectory, h'.process.trans h.process,
    h'.locked.trans h.locked, fun q hq => h'.directory q (h.directory q hq), fun q hq => ?_⟩
  rcases h.node q hq with hfirst | ⟨hnone, hdir⟩
  · rw [← hfirst]
    exact h'.node q hq
  · exact Or.inr ⟨hnone, h'.directory q hdir⟩

/-- A file that is not touched stays. -/
theorem file (h : Keeps touched fs gs) {q : Place} (hq : ¬touched q) {number : Nat}
    {content : List UInt8} (hfile : fs.node? q = some (.file number content)) :
    gs.node? q = some (.file number content) := by
  rcases h.node q hq with heq | ⟨hnone, -⟩
  · rw [heq, hfile]
  · rw [hnone] at hfile
    cases hfile

theorem placeOf (h : Keeps touched fs gs) (p : Path) : gs.placeOf p = fs.placeOf p := by
  rw [FileSystem.placeOf, FileSystem.placeOf, h.workingDirectory]

/-- A path holds the same as before if its place is not touched. -/
theorem holds_iff (h : Keeps touched fs gs) {p : Path} (hp : ¬touched (fs.placeOf p))
    {content : List UInt8} : gs.Holds p content ↔ fs.Holds p content := by
  rw [Holds, Holds, h.placeOf p]
  rcases h.node _ hp with heq | ⟨hnone, hdir⟩
  · rw [heq]
  · rw [hnone, hdir]
    simp

theorem hasDirectory (h : Keeps touched fs gs) {p : Path} (hp : fs.HasDirectory p) :
    gs.HasDirectory p := hp.mono h.workingDirectory h.directory

theorem locate (h : Keeps touched fs gs) {p : Path} {place : Place}
    (hp : fs.locate p = .ok place) : gs.locate p = .ok place := by
  obtain ⟨hacc, hwalk, hdot⟩ := locate_eq_ok.mp hp
  refine locate_eq_ok.mpr ⟨hacc, ?_, fun hd => h.directory place (hdot hd)⟩
  rw [h.workingDirectory]
  exact walk_mono h.directory hwalk

end Keeps

variable {fs gs : FileSystem}

/-! ## Directories -/

theorem put_directory_keeps (touched : Place → Prop) {place : Place}
    (h : fs.node? place = none) : Keeps touched fs (fs.put place .directory) := by
  have hroot : place ≠ [] := by
    rintro rfl
    cases h
  refine ⟨rfl, rfl, rfl, fun q hq => ?_, fun q _ => ?_⟩
  · have hne : q ≠ place := by
      rintro rfl
      rw [h] at hq
      cases hq
    rw [node?_put_of_ne hne, hq]
  · by_cases hq : q = place
    · subst hq
      exact Or.inr ⟨h, node?_put_self hroot .directory⟩
    · exact Or.inl (node?_put_of_ne hq .directory)

theorem makeDirectory_keeps (touched : Place → Prop) (fs : FileSystem) (p : Path) :
    Keeps touched fs (fs.makeDirectory p).2 := by
  rw [makeDirectory]
  split
  · exact Keeps.refl touched fs
  · split
    · exact Keeps.refl touched fs
    · rename_i hnone
      split
      · exact Keeps.refl touched fs
      · exact put_directory_keeps touched hnone

@[simp] theorem orDirectory_snd (p : Path) (outcome : Outcome Unit) :
    (orDirectory p outcome).2 = outcome.2 := by
  unfold orDirectory
  split
  · rfl
  · split <;> rfl

theorem makeDirectoriesUp_keeps (touched : Place → Prop) (fs : FileSystem)
    (cs : List Path.Component) : Keeps touched fs (fs.makeDirectoriesUp cs).2 := by
  induction cs generalizing fs with
  | nil => exact Keeps.refl touched fs
  | cons last above ih =>
      have hfirst := makeDirectory_keeps touched fs (Path.ofComponents (last :: above).reverse)
      rw [makeDirectoriesUp]
      split
      · -- The parent is missing: it is made, and then the directory is tried again.
        rename_i mid hmid
        rw [hmid] at hfirst
        have habove := hfirst.trans (ih mid)
        split
        · rename_i made hmade
          rw [hmade] at habove
          rw [orDirectory_snd]
          exact habove.trans (makeDirectory_keeps touched made _)
        · exact habove
      · rw [orDirectory_snd]
        exact hfirst

theorem ensureParent_keeps (touched : Place → Prop) (fs : FileSystem) (p : Path) :
    Keeps touched fs (fs.ensureParent p).2 := by
  rw [ensureParent]
  split
  · exact makeDirectoriesUp_keeps touched fs _
  · exact Keeps.refl touched fs

/-! ## Files -/

theorem put_file_keeps {place : Place} (number : Nat) (content : List UInt8)
    (h : fs.node? place ≠ some .directory) :
    Keeps (· = place) fs (fs.put place (.file number content)) := by
  refine ⟨rfl, rfl, rfl, fun q hq => ?_, fun q hq => Or.inl (node?_put_of_ne hq _)⟩
  have hne : q ≠ place := by
    rintro rfl
    exact h hq
  rw [node?_put_of_ne hne, hq]

theorem ne_root_of_not_directory {place : Place} (h : fs.node? place ≠ some .directory) :
    place ≠ [] := by
  rintro rfl
  exact h rfl

/-- A path that is located at no directory, and does not end in a separator, can be read. -/
theorem readable_of_locate {p : Path} {place : Place} (hp : fs.locate p = .ok place)
    (hsep : endsInSeparator p = false) (hdir : fs.node? place ≠ some .directory) : Readable p := by
  obtain ⟨hacc, hwalk, hdot⟩ := locate_eq_ok.mp hp
  exact ⟨hacc, Bool.eq_false_iff.mpr fun h => hdir (hdot h), hsep, short_of_walk hwalk⟩

/-- A file that is opened is there, and new if nothing was. -/
theorem openFile_eq_ok {p : Path} {place : Place} {number : Nat}
    (h : fs.openFile p = (.ok (place, number), gs)) :
    fs.locate p = .ok place ∧ Readable p ∧ fs.node? place ≠ some .directory ∧
      Keeps (fun q => q = place ∧ fs.node? q = none) fs gs ∧
        ∃ content, gs.node? place = some (.file number content) := by
  rw [openFile] at h
  split at h
  · cases h
  rename_i q hq
  split at h
  · cases h
  rename_i hsep
  have hsep' : endsInSeparator p = false := by simpa using hsep
  split at h
  · cases h
  · rename_i m content hfile
    split at h
    · cases h
    · cases h
      have hdir : fs.node? place ≠ some .directory := by
        rw [hfile]
        intro hd
        cases hd
      exact ⟨hq, readable_of_locate hq hsep' hdir, hdir, Keeps.refl _ fs, content, hfile⟩
  · rename_i hnone
    split at h
    · cases h
    · cases h
      have hdir : fs.node? place ≠ some .directory := by
        rw [hnone]
        intro hd
        cases hd
      have hput := put_file_keeps fs.nextNumber [] hdir
      refine ⟨hq, readable_of_locate hq hsep' hdir, hdir, ?_, [], ?_⟩
      · refine ⟨hput.workingDirectory, hput.process, hput.locked, hput.directory, fun q hq => ?_⟩
        refine hput.node q ?_
        rintro rfl
        exact hq ⟨rfl, hnone⟩
      · exact node?_put_self (ne_root_of_not_directory hdir) _

theorem writeFile_eq_ok {p : Path} {content : List UInt8} {place : Place}
    (h : fs.writeFile p content = (.ok place, gs)) :
    Keeps (· = fs.placeOf p) fs gs ∧ gs.Holds p content := by
  rw [writeFile] at h
  split at h
  · cases h
  rename_i q number mid hopen
  obtain ⟨hloc, hread, hdir, hkeeps, old, hfile⟩ := openFile_eq_ok hopen
  split at h
  · cases h
  cases h
  have hplace : place = fs.placeOf p := eq_placeOf_of_locate hloc
  have hmid : mid.node? place ≠ some .directory := by
    rw [hfile]
    intro hd
    cases hd
  have hput := put_file_keeps number content hmid
  subst hplace
  refine ⟨(hkeeps.mono fun q hq => hq.1).trans hput, hread, number, ?_⟩
  rw [hput.placeOf, hkeeps.placeOf]
  exact node?_put_self (ne_root_of_not_directory hmid) _

/-- A renamed file is found under its new name. -/
theorem renameFile_eq_ok {source target : Path} {content : List UInt8}
    (h : fs.renameFile source target = (.ok (), gs)) (hsource : fs.Holds source content) :
    Keeps (fun q => q = fs.placeOf source ∨ q = fs.placeOf target) fs gs ∧
      gs.Holds target content := by
  rw [renameFile] at h
  split at h
  · cases h
  · cases h
  rename_i old node new hold hnew
  split at h
  · cases h
  split at h
  · cases h
  rename_i hsep
  split at h
  · cases h
  rename_i hdir
  split at h
  · cases h
  cases h
  have hsep' : endsInSeparator target = false := by simpa using hsep
  have hread := readable_of_locate hnew hsep' hdir
  obtain ⟨hloc, -, hnode⟩ := lookup_eq_ok.mp hold
  obtain rfl := eq_placeOf_of_locate hloc
  obtain rfl := eq_placeOf_of_locate hnew
  -- The node that moves is the file that the source held.
  obtain ⟨-, number, hfile⟩ := hsource
  rw [hfile] at hnode
  cases hnode
  refine ⟨⟨rfl, rfl, rfl, fun q hq => ?_, fun q hq => ?_⟩, hread, number, ?_⟩
  · have hne : q ≠ fs.placeOf target := by
      rintro rfl
      exact hdir hq
    have hne' : q ≠ fs.placeOf source := by
      rintro rfl
      rw [hfile] at hq
      cases hq
    rw [node?_put_of_ne hne, node?_drop_of_ne hne', hq]
  · rw [not_or] at hq
    exact Or.inl (by rw [node?_put_of_ne hq.2, node?_drop_of_ne hq.1])
  · exact node?_put_self (ne_root_of_not_directory hdir) _

/-! ## Atomic writing -/

theorem isExtension_tmp (process : Nat) : Path.IsExtension s!"tmp.{process}" := by
  constructor
  · show '/' ∉ ("tmp." ++ toString process).toList
    rw [String.toList_append, Nat.toString_eq_repr, Nat.toList_repr, List.mem_append, not_or]
    refine ⟨by decide, fun h => ?_⟩
    have hdigit := Nat.isDigit_of_mem_toDigits (by decide) (by decide) h
    exact absurd hdigit (by decide)
  · show 2 ≤ ("tmp." ++ toString process).length
    rw [String.length_append]
    exact Nat.le_trans (by decide : 2 ≤ 4) (Nat.le_add_right _ _)

theorem fillTemporary_eq_ok {p : Path} {content : List UInt8}
    (h : fs.fillTemporary p content = (.ok (), gs)) :
    Keeps (· = fs.placeOf (fs.temporary p)) fs gs ∧ gs.Holds (fs.temporary p) content := by
  rw [fillTemporary] at h
  split at h
  · cases h
  rename_i hwrite
  split at h
  · cases h
  cases h
  exact writeFile_eq_ok hwrite

/-- The first half of an atomic write touches only the temporary file. -/
theorem stage_eq_ok {p : Path} {content : List UInt8} (h : fs.stage p content = (.ok (), gs)) :
    Keeps (· = fs.placeOf (fs.temporary p)) fs gs ∧ gs.Holds (fs.temporary p) content := by
  have hparent := ensureParent_keeps (· = fs.placeOf (fs.temporary p)) fs p
  rw [stage] at h
  split at h
  · cases h
  rename_i mid hmid
  rw [hmid] at hparent
  have htemp : mid.temporary p = fs.temporary p := by
    rw [temporary, temporary, hparent.process]
  split at h
  · cases h
  rename_i hfill
  cases h
  obtain ⟨hkeeps, hholds⟩ := fillTemporary_eq_ok hfill
  rw [htemp] at hkeeps hholds
  rw [hparent.placeOf] at hkeeps
  exact ⟨hparent.trans hkeeps, hholds⟩

/-- The second half of an atomic write puts the content of the temporary file in its place. -/
theorem publish_eq_ok {p : Path} {content : List UInt8} (h : fs.publish p = (.ok (), gs))
    (htemp : fs.Holds (fs.temporary p) content) :
    Keeps (fun q => q = fs.placeOf (fs.temporary p) ∨ q = fs.placeOf p) fs gs ∧
      gs.Holds p content := by
  rw [publish] at h
  split at h
  · cases h
  rename_i hrename
  cases h
  exact renameFile_eq_ok hrename htemp

/-- An atomic write touches its target and the temporary file, and no directory. -/
theorem atomicWrite_eq_ok {p : Path} {content : List UInt8}
    (h : fs.atomicWrite p content = (.ok (), gs)) :
    Keeps (fun q => q = fs.placeOf (fs.temporary p) ∨ q = fs.placeOf p) fs gs ∧
      gs.Holds p content := by
  rw [atomicWrite] at h
  split at h
  · cases h
  rename_i mid hstage
  obtain ⟨hkeeps, hholds⟩ := stage_eq_ok hstage
  have htemp : mid.temporary p = fs.temporary p := by
    rw [temporary, temporary, hkeeps.process]
  rw [← htemp] at hholds
  obtain ⟨hkeeps', hdone⟩ := publish_eq_ok h hholds
  rw [htemp, hkeeps.placeOf, hkeeps.placeOf] at hkeeps'
  exact ⟨(hkeeps.mono fun _ => Or.inl).trans hkeeps', hdone⟩

/-! ## Locks -/

theorem openFile_eq_error {p : Path} {error : SystemError} (h : fs.openFile p = (.error error, gs)) :
    gs = fs := by
  rw [openFile] at h
  repeat' split at h
  all_goals cases h <;> rfl

/-- Opening a lock file touches nothing else, whether it succeeds or not. -/
theorem openLock_keeps (fs : FileSystem) (p : Path) :
    Keeps (· = fs.placeOf p) fs (fs.openLock p).2 := by
  have hparent := ensureParent_keeps (· = fs.placeOf p) fs p
  rw [openLock]
  split
  · rename_i hmid
    rwa [hmid] at hparent
  rename_i mid hmid
  rw [hmid] at hparent
  split
  · rename_i hopen
    rwa [openFile_eq_error hopen]
  · rename_i place number last hopen
    obtain ⟨hloc, -, -, hkeeps, -⟩ := openFile_eq_ok hopen
    have hplace : place = fs.placeOf p := by
      rw [eq_placeOf_of_locate hloc, hparent.placeOf]
    exact hparent.trans (hkeeps.mono fun q hq => hq.1.trans hplace)

/-- Opening a lock file makes it if nothing stands in its place, and touches nothing else. -/
theorem openLock_eq_ok {p : Path} {number : Nat} (h : fs.openLock p = (.ok number, gs)) :
    Keeps (fun q => q = fs.placeOf p ∧ fs.node? q = none) fs gs ∧
      gs.locate p = .ok (fs.placeOf p) ∧
        ∃ content, gs.node? (fs.placeOf p) = some (.file number content) := by
  have hparent := ensureParent_keeps (fun _ => False) fs p
  rw [openLock] at h
  split at h
  · cases h
  rename_i mid hmid
  rw [hmid] at hparent
  split at h
  · cases h
  rename_i place m last hopen
  cases h
  obtain ⟨hloc, -, -, hkeeps, hfile⟩ := openFile_eq_ok hopen
  have hplace : place = fs.placeOf p := by
    rw [eq_placeOf_of_locate hloc, hparent.placeOf]
  subst hplace
  refine ⟨(hparent.mono fun _ h => h.elim).trans (hkeeps.mono fun q hq => ⟨hq.1, ?_⟩),
    hkeeps.locate hloc, hfile⟩
  -- What was missing after the directories were made was missing before.
  rcases hparent.node q id with heq | ⟨hnone, -⟩
  · rw [← heq]
    exact hq.2
  · exact hnone

end SuiteLint.FileSystem
