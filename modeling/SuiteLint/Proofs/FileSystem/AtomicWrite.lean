import SuiteLint.Proofs.FileSystem.Directories

/-!
# All or nothing

An atomic write either puts its content in place, or leaves every file but its own temporary one as
it was. A failure can strike while the directory is made, while the temporary file is opened,
written or synced, and while it is renamed. What each of them touches is the temporary file alone
(`stage_eq_error`, `publish_eq_error`). After each of them but the first the temporary file is
removed, and after the first it cannot be reached at all; so one that is found afterwards is one
that the system refuses to remove (`Abandons`).
-/

namespace SuiteLint.FileSystem

variable {fs gs : FileSystem} {p : Path} {content : List UInt8} {error : SystemError}

/-! ## Files that stay -/

/-- The same file stands at a place before and after a change, or none does. -/
def SameFileAt (q : Place) (fs gs : FileSystem) : Prop :=
  ∀ number content,
    gs.node? q = some (.file number content) ↔ fs.node? q = some (.file number content)

theorem Keeps.sameFileAt {touched : Place → Prop} (h : Keeps touched fs gs) {q : Place}
    (hq : ¬touched q) : SameFileAt q fs gs := by
  intro number content
  rcases h.node q hq with heq | ⟨hnone, hdir⟩
  · rw [heq]
  · rw [hnone, hdir]
    simp

theorem Keeps.temporary {touched : Place → Prop} (h : Keeps touched fs gs) (p : Path) :
    gs.temporary p = fs.temporary p := by
  rw [FileSystem.temporary, FileSystem.temporary, h.process]

/-! ## Writing and removing a file -/

/-- Writing a file touches nothing else, whether it succeeds or not. -/
theorem writeFile_keeps (fs : FileSystem) (p : Path) (content : List UInt8) :
    Keeps (· = fs.placeOf p) fs (fs.writeFile p content).2 := by
  rw [writeFile]
  split
  · rename_i hopen
    rw [openFile_eq_error hopen]
    exact Keeps.refl _ fs
  · rename_i place number mid hopen
    obtain ⟨hlocate, -, -, hkeeps, old, hfile⟩ := openFile_eq_ok hopen
    obtain rfl := eq_placeOf_of_locate hlocate
    have hput : ∀ bytes, Keeps (· = fs.placeOf p) fs
        (mid.put (fs.placeOf p) (.file number bytes)) := by
      intro bytes
      refine (hkeeps.mono fun q hq => hq.1).trans (put_file_keeps number bytes ?_)
      rw [hfile]
      intro hdir
      cases hdir
    split
    · exact hput []
    · exact hput content

theorem node?_drop_self {place : Place} (h : place ≠ []) : (fs.drop place).node? place = none := by
  have hfind : (fs.nodes.filter fun entry => entry.1 != place).find? (fun entry => entry.1 == place)
      = none := by
    rw [List.find?_eq_none]
    intro entry hentry
    have hne := (List.mem_filter.mp hentry).2
    simpa using hne
  rw [node?, if_neg (by simpa using h), drop, hfind]
  rfl

theorem isFile_iff :
    fs.isFile p = true ↔ ∃ place number bytes, fs.lookup p = .ok (place, .file number bytes) := by
  rw [isFile]
  split
  · rename_i place number bytes hlookup
    simp [hlookup]
  · rename_i hno
    constructor
    · intro h
      cases h
    · rintro ⟨place, number, bytes, hlookup⟩
      exact absurd hlookup (hno place number bytes)

/-- A path leads to no file, or to one that the system refuses to remove. -/
def Abandons (gs : FileSystem) (p : Path) : Prop :=
  gs.isFile p = true → ∃ refused, gs.removeFile p = (.error refused, gs)

theorem drop_file_keeps {place : Place} (h : fs.node? place ≠ some .directory) :
    Keeps (· = place) fs (fs.drop place) := by
  refine ⟨rfl, rfl, rfl, fun q hq => ?_, fun q hq => Or.inl (node?_drop_of_ne hq)⟩
  have hne : q ≠ place := by
    rintro rfl
    exact h hq
  rw [node?_drop_of_ne hne, hq]

/-- Removing a file takes it away, or changes nothing. -/
theorem removeFile_cases (fs : FileSystem) (p : Path) :
    (∃ error, fs.removeFile p = (.error error, fs)) ∨
      (fs.node? (fs.placeOf p) ≠ some .directory ∧
        fs.removeFile p = (.ok (), fs.drop (fs.placeOf p))) := by
  rw [removeFile]
  split
  · exact .inl ⟨_, rfl⟩
  · exact .inl ⟨_, rfl⟩
  · rename_i place number bytes hlookup
    obtain ⟨hlocate, -, hnode⟩ := lookup_eq_ok.mp hlookup
    obtain rfl := eq_placeOf_of_locate hlocate
    split
    · exact .inl ⟨_, rfl⟩
    · refine .inr ⟨?_, rfl⟩
      rw [hnode]
      intro hdir
      cases hdir

theorem removeFile_keeps (fs : FileSystem) (p : Path) :
    Keeps (· = fs.placeOf p) fs (fs.removeFile p).2 := by
  rcases removeFile_cases fs p with ⟨error, h⟩ | ⟨hfile, h⟩
  · rw [h]
    exact Keeps.refl _ fs
  · rw [h]
    exact drop_file_keeps hfile

/-- A file that was to be removed is gone, or it cannot be removed. -/
theorem removeFile_abandons (fs : FileSystem) (p : Path) : Abandons (fs.removeFile p).2 p := by
  rcases removeFile_cases fs p with ⟨error, h⟩ | ⟨hdir, h⟩
  · rw [h]
    exact fun _ => ⟨error, h⟩
  · rw [h]
    intro hfile
    obtain ⟨place, number, bytes, hlookup⟩ := isFile_iff.mp hfile
    obtain ⟨hlocate, -, hnode⟩ := lookup_eq_ok.mp hlookup
    rw [eq_placeOf_of_locate hlocate, (drop_file_keeps hdir).placeOf,
      node?_drop_self (ne_root_of_not_directory hdir)] at hnode
    cases hnode

/-! ## Failures -/

theorem fillTemporary_keeps (fs : FileSystem) (p : Path) (content : List UInt8) :
    Keeps (· = fs.placeOf (fs.temporary p)) fs (fs.fillTemporary p content).2 := by
  have hwrite := writeFile_keeps fs (fs.temporary p) content
  rw [fillTemporary]
  split
  · rename_i hrun
    rwa [hrun] at hwrite
  · rename_i hrun
    rw [hrun] at hwrite
    split
    · exact hwrite
    · exact hwrite

/-- Giving up touches the temporary file alone, and leaves it only where it must. -/
theorem abandon_spec (fs : FileSystem) (p : Path) :
    Keeps (· = fs.placeOf (fs.temporary p)) fs (fs.abandon p) ∧
      Abandons (fs.abandon p) (fs.temporary p) :=
  ⟨removeFile_keeps fs (fs.temporary p), removeFile_abandons fs (fs.temporary p)⟩

theorem stage_eq_error (h : fs.stage p content = (.error error, gs)) :
    Keeps (· = fs.placeOf (fs.temporary p)) fs gs ∧ Abandons gs (fs.temporary p) := by
  have hparent := ensureParent_keeps (· = fs.placeOf (fs.temporary p)) fs p
  rw [stage] at h
  split at h
  · -- Without a directory there is no temporary file to be found.
    rename_i hfail
    cases h
    rw [hfail] at hparent
    refine ⟨hparent, fun hfile => ?_⟩
    obtain ⟨place, number, bytes, hlookup⟩ := isFile_iff.mp hfile
    have hlocate := (lookup_eq_ok.mp hlookup).1
    exact absurd hlocate (locate_sidecar_of_ensureParent_error (isExtension_tmp fs.process) hfail _)
  · rename_i mid hmid
    rw [hmid] at hparent
    have hfill := fillTemporary_keeps mid p content
    rw [hparent.temporary, hparent.placeOf] at hfill
    split at h
    · rename_i last hrun
      cases h
      rw [hrun] at hfill
      have hkeeps := hparent.trans hfill
      obtain ⟨hrest, habandons⟩ := abandon_spec last p
      rw [hkeeps.temporary, hkeeps.placeOf] at hrest
      rw [hkeeps.temporary] at habandons
      exact ⟨hkeeps.trans hrest, habandons⟩
    · cases h

theorem renameFile_eq_error {source target : Path}
    (h : fs.renameFile source target = (.error error, gs)) : gs = fs := by
  rw [renameFile] at h
  repeat' split at h
  all_goals cases h <;> rfl

theorem publish_eq_error (h : fs.publish p = (.error error, gs)) :
    Keeps (· = fs.placeOf (fs.temporary p)) fs gs ∧ Abandons gs (fs.temporary p) := by
  rw [publish] at h
  split at h
  · rename_i hrename
    cases h
    rw [renameFile_eq_error hrename]
    exact abandon_spec fs p
  · cases h

theorem atomicWrite_eq_error (h : fs.atomicWrite p content = (.error error, gs)) :
    Keeps (· = fs.placeOf (fs.temporary p)) fs gs ∧ Abandons gs (fs.temporary p) := by
  rw [atomicWrite] at h
  split at h
  · rename_i hstage
    cases h
    exact stage_eq_error hstage
  · rename_i mid hstage
    obtain ⟨hkeeps, -⟩ := stage_eq_ok hstage
    obtain ⟨hrest, habandons⟩ := publish_eq_error h
    rw [hkeeps.temporary, hkeeps.placeOf] at hrest
    rw [hkeeps.temporary] at habandons
    exact ⟨hkeeps.trans hrest, habandons⟩

/-! ## Success -/

theorem renameFile_inv {source target : Path} (h : fs.renameFile source target = (.ok (), gs)) :
    ∃ node, fs.node? (fs.placeOf source) = some node ∧
      fs.locate target = .ok (fs.placeOf target) ∧
        gs = (fs.drop (fs.placeOf source)).put (fs.placeOf target) node := by
  rw [renameFile] at h
  split at h
  · cases h
  · cases h
  rename_i old node new hold hnew
  obtain ⟨hlocate, -, hnode⟩ := lookup_eq_ok.mp hold
  obtain rfl := eq_placeOf_of_locate hlocate
  obtain rfl := eq_placeOf_of_locate hnew
  repeat' split at h
  all_goals cases h
  all_goals exact ⟨node, hnode, hnew, rfl⟩

/-- Once the temporary file has taken its place, it is gone, and the way to the target is there. -/
theorem publish_moves (h : fs.publish p = (.ok (), gs)) (htemp : fs.Holds (fs.temporary p) content) :
    gs.node? (fs.placeOf (fs.temporary p)) = none ∧ gs.locate p = .ok (fs.placeOf p) := by
  obtain ⟨hkeeps, -⟩ := publish_eq_ok h htemp
  obtain ⟨-, number, hfile⟩ := htemp
  have hroot : fs.placeOf (fs.temporary p) ≠ [] := by
    intro hnil
    rw [hnil] at hfile
    cases hfile
  have hne : fs.placeOf (fs.temporary p) ≠ fs.placeOf p :=
    placeOf_sidecar_ne_self p (isExtension_tmp fs.process)
  rw [publish] at h
  split at h
  · cases h
  rename_i hrename
  cases h
  obtain ⟨node, -, hlocate, hgs⟩ := renameFile_inv hrename
  refine ⟨?_, hkeeps.locate hlocate⟩
  rw [hgs, node?_put_of_ne hne, node?_drop_self hroot]

theorem atomicWrite_moves (h : fs.atomicWrite p content = (.ok (), gs)) :
    gs.read p = .ok content ∧ gs.node? (fs.placeOf (fs.temporary p)) = none := by
  obtain ⟨-, hholds⟩ := atomicWrite_eq_ok h
  rw [atomicWrite] at h
  split at h
  · cases h
  rename_i mid hstage
  obtain ⟨hkeeps, htemp⟩ := stage_eq_ok hstage
  rw [← hkeeps.temporary] at htemp
  obtain ⟨hgone, hlocate⟩ := publish_moves h htemp
  rw [hkeeps.temporary, hkeeps.placeOf] at hgone
  obtain ⟨-, hwalk, -⟩ := locate_eq_ok.mp hlocate
  exact ⟨read_eq_ok_iff.mpr ⟨hholds, _, hwalk⟩, hgone⟩

/-- **An atomic write is all or nothing.** If it succeeds, its target has the content, its temporary
file is gone, and every other file is as it was. If it fails, every file but the temporary one is as
it was, the target included, and a temporary file is found afterwards only if it cannot be
removed. -/
theorem atomicWrite_all_or_nothing (fs : FileSystem) (p : Path) (content : List UInt8) :
    match fs.atomicWrite p content with
    | (.ok (), gs) =>
      gs.read p = .ok content ∧ gs.node? (fs.placeOf (fs.temporary p)) = none ∧
        ∀ q, q ≠ fs.placeOf p → q ≠ fs.placeOf (fs.temporary p) → SameFileAt q fs gs
    | (.error _, gs) =>
      (∀ q, q ≠ fs.placeOf (fs.temporary p) → SameFileAt q fs gs) ∧
        (gs.isFile (fs.temporary p) = true →
          ∃ refused, gs.removeFile (fs.temporary p) = (.error refused, gs)) := by
  split
  · rename_i gs hrun
    obtain ⟨hkeeps, -⟩ := atomicWrite_eq_ok hrun
    obtain ⟨hread, hgone⟩ := atomicWrite_moves hrun
    refine ⟨hread, hgone, fun q hp htemp => hkeeps.sameFileAt ?_⟩
    rintro (h | h)
    · exact htemp h
    · exact hp h
  · rename_i error gs hrun
    obtain ⟨hkeeps, habandons⟩ := atomicWrite_eq_error hrun
    exact ⟨fun q hq => hkeeps.sameFileAt hq, habandons⟩

/-- A tree with a directory `d` in it and some files. -/
def sparseFiles (files : List (Place × Node)) (nextNumber : Nat) : FileSystem :=
  { nodes := files ++ [(["d"], .directory)], nextNumber }

theorem locate_sparseFiles (files : List (Place × Node)) (next : Nat) :
    (sparseFiles files next).locate ⟨"n"⟩ = .ok ["n"] ∧
      (sparseFiles files next).locate ⟨"n.tmp.1"⟩ = .ok ["n.tmp.1"] ∧
      (sparseFiles files next).locate ⟨"d"⟩ = .ok ["d"] ∧
      (sparseFiles files next).locate ⟨"d.tmp.1"⟩ = .ok ["d.tmp.1"] := by
  refine ⟨?_, ?_, ?_, ?_⟩ <;>
    exact locate_name rfl (by decide) (by decide) (by decide) (by decide) (by decide)

theorem temporary_sparseFiles (files : List (Place × Node)) (next : Nat) :
    (sparseFiles files next).temporary ⟨"n"⟩ = ⟨"n.tmp.1"⟩ ∧
      (sparseFiles files next).temporary ⟨"d"⟩ = ⟨"d.tmp.1"⟩ := by
  have hnames : Path.sidecar ⟨"n"⟩ s!"tmp.{1}" = ⟨"n.tmp.1"⟩ ∧
      Path.sidecar ⟨"d"⟩ s!"tmp.{1}" = ⟨"d.tmp.1"⟩ := by decide
  exact hnames

theorem ensureParent_sparseFiles (files : List (Place × Node)) (next : Nat) :
    (sparseFiles files next).ensureParent ⟨"n"⟩ = (.ok (), sparseFiles files next) ∧
      (sparseFiles files next).ensureParent ⟨"d"⟩ = (.ok (), sparseFiles files next) := ⟨rfl, rfl⟩

theorem stage_sparseFiles :
    (sparseFiles [(["n"], .file 0 [1])] 1).stage ⟨"n"⟩ [7]
      = (.ok (), sparseFiles [(["n.tmp.1"], .file 1 [7]), (["n"], .file 0 [1])] 2) ∧
    (sparseFiles [(["n"], .file 0 [1])] 1).stage ⟨"d"⟩ [7]
      = (.ok (), sparseFiles [(["d.tmp.1"], .file 1 [7]), (["n"], .file 0 [1])] 2) := by
  constructor <;>
    simp only [stage, fillTemporary, writeFile, openFile, ensureParent_sparseFiles,
      temporary_sparseFiles, locate_sparseFiles] <;>
    rfl

theorem publish_sparseFiles :
    ((sparseFiles [(["n.tmp.1"], .file 1 [7]), (["n"], .file 0 [1])] 2).publish ⟨"n"⟩).1
      = .ok () ∧
    ((sparseFiles [(["d.tmp.1"], .file 1 [7]), (["n"], .file 0 [1])] 2).publish ⟨"d"⟩).1
      = .error .isDirectory := by
  constructor <;>
    simp only [publish, renameFile, lookup, temporary_sparseFiles, locate_sparseFiles] <;>
    rfl

theorem atomicWrite_sparseFiles :
    ((sparseFiles [(["n"], .file 0 [1])] 1).atomicWrite ⟨"n"⟩ [7]).1 = .ok () ∧
      ((sparseFiles [(["n"], .file 0 [1])] 1).atomicWrite ⟨"d"⟩ [7]).1 = .error .isDirectory := by
  rw [atomicWrite, stage_sparseFiles.1, atomicWrite, stage_sparseFiles.2]
  exact publish_sparseFiles

/-- A file is replaced; a directory is not, and the file beside it stays. -/
theorem atomicWrite_all_or_nothing_sparse :
    (∃ gs, (sparseFiles [(["n"], .file 0 [1])] 1).atomicWrite ⟨"n"⟩ [7] = (.ok (), gs) ∧
      gs.read ⟨"n"⟩ = .ok [7] ∧ gs.node? ["n.tmp.1"] = none) ∧
    ∃ gs, (sparseFiles [(["n"], .file 0 [1])] 1).atomicWrite ⟨"d"⟩ [7]
        = (.error .isDirectory, gs) ∧ gs.node? ["n"] = some (.file 0 [1]) := by
  obtain ⟨hok, herror⟩ := atomicWrite_sparseFiles
  constructor
  · have hall := atomicWrite_all_or_nothing (sparseFiles [(["n"], .file 0 [1])] 1) ⟨"n"⟩ [7]
    cases hrun : (sparseFiles [(["n"], .file 0 [1])] 1).atomicWrite ⟨"n"⟩ [7] with
    | mk outcome gs =>
        rw [hrun] at hok hall
        obtain rfl : outcome = .ok () := hok
        rw [(temporary_sparseFiles _ _).1] at hall
        exact ⟨gs, rfl, hall.1, hall.2.1⟩
  · have hall := atomicWrite_all_or_nothing (sparseFiles [(["n"], .file 0 [1])] 1) ⟨"d"⟩ [7]
    cases hrun : (sparseFiles [(["n"], .file 0 [1])] 1).atomicWrite ⟨"d"⟩ [7] with
    | mk outcome gs =>
        rw [hrun] at herror hall
        obtain rfl : outcome = .error .isDirectory := herror
        rw [(temporary_sparseFiles _ _).2] at hall
        exact ⟨gs, rfl, (hall.1 ["n"] (by decide) 0 [1]).mpr rfl⟩

end SuiteLint.FileSystem
