import SuiteLint.FileSystem.Basic
import SuiteLint.Proofs.Path

/-!
# Where paths lead

`destination` follows a path without looking at the tree; a walk that succeeds ends there. So what a
path can ever be read as is known before its directories exist: it `Holds` a content if the file at
its destination does and nothing in its text keeps it from being read. Once the directory of a path
is there, reading the path or a sidecar of it gives just what they hold (`read_eq_ok_iff_holds`).
-/

namespace SuiteLint.FileSystem

variable {fs gs : FileSystem}

/-! ## The tree as a map -/

theorem find?_filter_ne (nodes : List (Place × Node)) {place q : Place} (h : q ≠ place) :
    (nodes.filter fun entry => entry.1 != place).find? (fun entry => entry.1 == q) =
      nodes.find? fun entry => entry.1 == q := by
  rw [List.find?_filter]
  congr 1
  funext entry
  by_cases hq : entry.1 = q
  · simp [hq, h]
  · simp [hq]

theorem node?_put_self {place : Place} (h : place ≠ []) (node : Node) :
    (fs.put place node).node? place = some node := by
  simp [node?, put, h]

theorem node?_put_of_ne {place q : Place} (h : q ≠ place) (node : Node) :
    (fs.put place node).node? q = fs.node? q := by
  have hbeq : (place == q) = false := beq_eq_false_iff_ne.mpr (Ne.symm h)
  simp only [node?, put, List.find?_cons, hbeq, find?_filter_ne _ h]

theorem node?_drop_of_ne {place q : Place} (h : q ≠ place) :
    (fs.drop place).node? q = fs.node? q := by
  rw [node?, node?, drop, find?_filter_ne _ h]

/-! ## Walking -/

theorem bind_eq_ok {ε α β : Type} {x : Except ε α} {f : α → Except ε β} {b : β} :
    (x >>= f) = .ok b ↔ ∃ a, x = .ok a ∧ f a = .ok b := by
  cases x with
  | error e =>
      constructor
      · intro h
        cases h
      · rintro ⟨a, h, -⟩
        cases h
  | ok a =>
      constructor
      · exact fun h => ⟨a, rfl, h⟩
      · rintro ⟨_, hok, h⟩
        cases hok
        exact h

theorem requireDirectory_eq_ok {place : Place} :
    fs.requireDirectory place = .ok () ↔ fs.node? place = some .directory := by
  rw [requireDirectory]
  cases fs.node? place with
  | none => simp
  | some node => cases node <;> simp

theorem requireShort_eq_ok {limit : Nat} {name : String} :
    requireShort limit name = .ok () ↔ name.utf8ByteSize ≤ limit := by
  rw [requireShort]
  split
  · rename_i h
    simp [Nat.not_le.mpr h]
  · rename_i h
    simp [Nat.not_lt.mp h]

/-- Where components lead from a place, whatever stands there. -/
def destination (place : Place) : List Path.Component → Place
  | [] => place
  | .root :: rest => destination [] rest
  | .current :: rest => destination place rest
  | .parent :: rest => destination place.dropLast rest
  | .name n :: rest => destination (place ++ [n]) rest

theorem destination_append (place : Place) (as bs : List Path.Component) :
    destination place (as ++ bs) = destination (destination place as) bs := by
  induction as generalizing place with
  | nil => rfl
  | cons a as ih => cases a <;> exact ih _

theorem walk_name_eq_ok {place q : Place} {n : String} {rest : List Path.Component} :
    fs.walk place (.name n :: rest) = .ok q ↔
      fs.node? place = some .directory ∧ n.utf8ByteSize ≤ maxNameBytes ∧
        fs.walk (place ++ [n]) rest = .ok q := by
  rw [walk, bind_eq_ok]
  constructor
  · rintro ⟨_, hdir, h⟩
    obtain ⟨_, hshort, h⟩ := bind_eq_ok.mp h
    exact ⟨requireDirectory_eq_ok.mp hdir, requireShort_eq_ok.mp hshort, h⟩
  · rintro ⟨hdir, hshort, h⟩
    exact ⟨(), requireDirectory_eq_ok.mpr hdir,
      bind_eq_ok.mpr ⟨(), requireShort_eq_ok.mpr hshort, h⟩⟩

theorem walk_parent_eq_ok {place q : Place} {rest : List Path.Component} :
    fs.walk place (.parent :: rest) = .ok q ↔
      fs.node? place = some .directory ∧ fs.walk place.dropLast rest = .ok q := by
  rw [walk, bind_eq_ok]
  constructor
  · rintro ⟨_, hdir, h⟩
    exact ⟨requireDirectory_eq_ok.mp hdir, h⟩
  · rintro ⟨hdir, h⟩
    exact ⟨(), requireDirectory_eq_ok.mpr hdir, h⟩

theorem eq_destination_of_walk {place q : Place} {cs : List Path.Component}
    (h : fs.walk place cs = .ok q) : q = destination place cs := by
  induction cs generalizing place with
  | nil => exact (Except.ok.inj h).symm
  | cons c cs ih =>
      cases c with
      | root => exact ih h
      | current => exact ih h
      | parent => exact ih (walk_parent_eq_ok.mp h).2
      | name n => exact ih (walk_name_eq_ok.mp h).2.2

theorem walk_append_eq_ok {place q : Place} {as bs : List Path.Component} :
    fs.walk place (as ++ bs) = .ok q ↔
      ∃ mid, fs.walk place as = .ok mid ∧ fs.walk mid bs = .ok q := by
  induction as generalizing place with
  | nil =>
      constructor
      · exact fun h => ⟨place, rfl, h⟩
      · rintro ⟨mid, hmid, h⟩
        cases hmid
        exact h
  | cons a as ih =>
      cases a with
      | root => exact ih
      | current => exact ih
      | parent =>
          rw [List.cons_append, walk_parent_eq_ok, ih]
          constructor
          · rintro ⟨hdir, mid, hmid, h⟩
            exact ⟨mid, walk_parent_eq_ok.mpr ⟨hdir, hmid⟩, h⟩
          · rintro ⟨mid, hmid, h⟩
            obtain ⟨hdir, hmid⟩ := walk_parent_eq_ok.mp hmid
            exact ⟨hdir, mid, hmid, h⟩
      | name n =>
          rw [List.cons_append, walk_name_eq_ok, ih]
          constructor
          · rintro ⟨hdir, hshort, mid, hmid, h⟩
            exact ⟨mid, walk_name_eq_ok.mpr ⟨hdir, hshort, hmid⟩, h⟩
          · rintro ⟨mid, hmid, h⟩
            obtain ⟨hdir, hshort, hmid⟩ := walk_name_eq_ok.mp hmid
            exact ⟨hdir, hshort, mid, hmid, h⟩

theorem short_of_walk {place q : Place} {cs : List Path.Component} (h : fs.walk place cs = .ok q) :
    ∀ n, .name n ∈ cs → n.utf8ByteSize ≤ maxNameBytes := by
  intro n hn
  obtain ⟨as, bs, rfl⟩ := List.append_of_mem hn
  obtain ⟨mid, -, hrest⟩ := walk_append_eq_ok.mp h
  exact (walk_name_eq_ok.mp hrest).2.1

/-- A walk succeeds in every tree that has the directories of the first. -/
theorem walk_mono (hdir : ∀ p, fs.node? p = some .directory → gs.node? p = some .directory)
    {place q : Place} {cs : List Path.Component} (h : fs.walk place cs = .ok q) :
    gs.walk place cs = .ok q := by
  induction cs generalizing place with
  | nil => exact h
  | cons c cs ih =>
      cases c with
      | root => exact ih h
      | current => exact ih h
      | parent =>
          obtain ⟨hplace, h⟩ := walk_parent_eq_ok.mp h
          exact walk_parent_eq_ok.mpr ⟨hdir _ hplace, ih h⟩
      | name n =>
          obtain ⟨hplace, hshort, h⟩ := walk_name_eq_ok.mp h
          exact walk_name_eq_ok.mpr ⟨hdir _ hplace, hshort, ih h⟩

/-! ## Locating and reading -/

/-- A text that the system takes as a path. -/
structure Acceptable (p : Path) : Prop where
  noZero : p.text.contains '\x00' = false
  nonempty : (p.text == "") = false
  short : p.text.utf8ByteSize ≤ maxPathBytes

theorem locate_eq_ok {p : Path} {place : Place} :
    fs.locate p = .ok place ↔ Acceptable p ∧ fs.walk fs.workingDirectory p.components = .ok place ∧
      (Text.endsWith "/." p.text = true → fs.node? place = some .directory) := by
  rw [locate]
  constructor
  · intro h
    split at h
    · cases h
    rename_i hzero
    split at h
    · cases h
    rename_i hempty
    obtain ⟨_, hshort, h⟩ := bind_eq_ok.mp h
    obtain ⟨q, hwalk, h⟩ := bind_eq_ok.mp h
    have hplace : q = place ∧
        (Text.endsWith "/." p.text = true → fs.node? q = some .directory) := by
      split at h
      · obtain ⟨_, hdir, h⟩ := bind_eq_ok.mp h
        exact ⟨Except.ok.inj h, fun _ => requireDirectory_eq_ok.mp hdir⟩
      · rename_i hdot
        exact ⟨Except.ok.inj h, fun hdot' => absurd hdot' hdot⟩
    obtain ⟨rfl, hdot⟩ := hplace
    exact ⟨⟨by simpa using hzero, by simpa using hempty, requireShort_eq_ok.mp hshort⟩, hwalk, hdot⟩
  · rintro ⟨hp, hwalk, hdot⟩
    rw [hp.noZero, hp.nonempty]
    refine bind_eq_ok.mpr ⟨(), requireShort_eq_ok.mpr hp.short, bind_eq_ok.mpr ⟨place, hwalk, ?_⟩⟩
    split
    · rename_i h
      exact bind_eq_ok.mpr ⟨(), requireDirectory_eq_ok.mpr (hdot h), rfl⟩
    · rfl

/-- A name right below the root is found in every tree. -/
theorem locate_name {name : String} (hworking : fs.workingDirectory = [])
    (hzero : '\x00' ∉ name.toList) (hempty : name ≠ "")
    (hshort : name.utf8ByteSize ≤ maxNameBytes) (hdot : Text.endsWith "/." name = false)
    (hname : (Path.mk name).components = [.name name]) : fs.locate ⟨name⟩ = .ok [name] := by
  refine locate_eq_ok.mpr ⟨⟨?_, ?_, ?_⟩, ?_, ?_⟩
  · simpa using hzero
  · simpa using hempty
  · exact Nat.le_trans hshort (by decide)
  · rw [hname, hworking]
    exact walk_name_eq_ok.mpr ⟨rfl, hshort, rfl⟩
  · exact fun h => absurd h (Bool.eq_false_iff.mp hdot)

theorem lookup_eq_ok {p : Path} {place : Place} {node : Node} :
    fs.lookup p = .ok (place, node) ↔ fs.locate p = .ok place ∧
      (endsInSeparator p = true → fs.node? place = some .directory) ∧
        fs.node? place = some node := by
  rw [lookup, bind_eq_ok]
  constructor
  · rintro ⟨q, hq, h⟩
    by_cases hsep : endsInSeparator p = true
    · simp only [hsep, if_true] at h
      obtain ⟨_, hdir, h⟩ := bind_eq_ok.mp h
      have hn := requireDirectory_eq_ok.mp hdir
      rw [hn] at h
      cases h
      exact ⟨hq, fun _ => hn, hn⟩
    · simp only [hsep] at h
      cases hn : fs.node? q with
      | none =>
          rw [hn] at h
          cases h
      | some m =>
          rw [hn] at h
          cases h
          exact ⟨hq, fun hsep' => absurd hsep' hsep, hn⟩
  · rintro ⟨hq, hsep, hn⟩
    refine ⟨place, hq, ?_⟩
    by_cases h : endsInSeparator p = true
    · simp only [h, if_true]
      refine bind_eq_ok.mpr ⟨(), requireDirectory_eq_ok.mpr (hsep h), ?_⟩
      rw [hn]
      rfl
    · simp only [h, hn]
      rfl

/-- A text that can lead to a file: nothing in it asks for a directory at its end. -/
structure Readable (p : Path) : Prop extends Acceptable p where
  noDot : Text.endsWith "/." p.text = false
  noSeparator : endsInSeparator p = false
  shortNames : ∀ n, .name n ∈ p.components → n.utf8ByteSize ≤ maxNameBytes

/-- The place of a path, once the directories on its way are there. -/
def placeOf (fs : FileSystem) (p : Path) : Place := destination fs.workingDirectory p.components

theorem eq_placeOf_of_locate {p : Path} {place : Place} (h : fs.locate p = .ok place) :
    place = fs.placeOf p := eq_destination_of_walk (locate_eq_ok.mp h).2.1

/-- The file at the place of a path has a content, and the path can be read. -/
def Holds (fs : FileSystem) (p : Path) (content : List UInt8) : Prop :=
  Readable p ∧ ∃ number, fs.node? (fs.placeOf p) = some (.file number content)

theorem Holds.unique {p : Path} {c d : List UInt8} (hc : fs.Holds p c) (hd : fs.Holds p d) :
    c = d := by
  obtain ⟨-, m, hm⟩ := hc
  obtain ⟨-, n, hn⟩ := hd
  rw [hm] at hn
  cases hn
  rfl

theorem read_eq_ok {p : Path} {content : List UInt8} :
    fs.read p = .ok content ↔ ∃ place number, fs.lookup p = .ok (place, .file number content) := by
  rw [read, bind_eq_ok]
  constructor
  · rintro ⟨⟨place, node⟩, hlook, h⟩
    cases node with
    | directory => cases h
    | file number c =>
        cases h
        exact ⟨place, number, hlook⟩
  · rintro ⟨place, number, hlook⟩
    exact ⟨_, hlook, rfl⟩

/-- What is read is what the path holds, and all directories on its way are there. -/
theorem read_eq_ok_iff {p : Path} {content : List UInt8} :
    fs.read p = .ok content ↔
      fs.Holds p content ∧ ∃ place, fs.walk fs.workingDirectory p.components = .ok place := by
  rw [read_eq_ok]
  constructor
  · rintro ⟨place, number, h⟩
    obtain ⟨hloc, hsep, hnode⟩ := lookup_eq_ok.mp h
    obtain ⟨hp, hwalk, hdot⟩ := locate_eq_ok.mp hloc
    -- A file stands there, so the text cannot ask for a directory.
    have hfile : fs.node? place ≠ some .directory := by
      rw [hnode]
      intro h
      cases h
    refine ⟨⟨⟨hp, ?_, ?_, short_of_walk hwalk⟩, number, ?_⟩, place, hwalk⟩
    · exact Bool.eq_false_iff.mpr fun h => hfile (hdot h)
    · exact Bool.eq_false_iff.mpr fun h => hfile (hsep h)
    · rw [← eq_placeOf_of_locate hloc]
      exact hnode
  · rintro ⟨⟨hp, number, hnode⟩, place, hwalk⟩
    have hplace : place = fs.placeOf p := eq_destination_of_walk hwalk
    refine ⟨place, number, lookup_eq_ok.mpr ⟨locate_eq_ok.mpr ⟨hp.toAcceptable, hwalk, ?_⟩, ?_, ?_⟩⟩
    · intro h
      exact absurd h (Bool.eq_false_iff.mp hp.noDot)
    · intro h
      exact absurd h (Bool.eq_false_iff.mp hp.noSeparator)
    · rw [hplace]
      exact hnode

theorem holds_of_read {p : Path} {content : List UInt8} (h : fs.read p = .ok content) :
    fs.Holds p content := (read_eq_ok_iff.mp h).1

/-! ## The directory of a path -/

/-- The directory that a path and its sidecars lie in is there. -/
def HasDirectory (fs : FileSystem) (p : Path) : Prop :=
  ∃ stem last, p.CutAt stem last ∧
    ∃ place, fs.walk fs.workingDirectory stem = .ok place ∧ fs.node? place = some .directory

theorem HasDirectory.mono {p : Path} (hworking : gs.workingDirectory = fs.workingDirectory)
    (hdir : ∀ q, fs.node? q = some .directory → gs.node? q = some .directory)
    (h : fs.HasDirectory p) : gs.HasDirectory p := by
  obtain ⟨stem, last, hcut, place, hwalk, hplace⟩ := h
  refine ⟨stem, last, hcut, place, ?_, hdir place hplace⟩
  rw [hworking]
  exact walk_mono hdir hwalk

theorem HasDirectory.withLocked {p : Path} (h : fs.HasDirectory p) (locked : List Nat) :
    HasDirectory { fs with locked } p := by
  refine HasDirectory.mono ?_ ?_ h
  · rfl
  · exact fun _ hq => hq

theorem HasDirectory.withProcess {p : Path} (h : fs.HasDirectory p) (process : Nat) :
    HasDirectory { fs with process } p := by
  refine HasDirectory.mono ?_ ?_ h
  · rfl
  · exact fun _ hq => hq

theorem hasDirectory_of_locate_sidecar {p : Path} {ext : String} {place : Place}
    (hext : Path.IsExtension ext) (h : fs.locate (p.sidecar ext) = .ok place) :
    fs.HasDirectory p := by
  obtain ⟨stem, last, hcut⟩ := p.exists_cutAt
  have hwalk := (locate_eq_ok.mp h).2.1
  rw [hcut.sidecar ext hext] at hwalk
  obtain ⟨mid, hmid, hname⟩ := walk_append_eq_ok.mp hwalk
  exact ⟨stem, last, hcut, mid, hmid, (walk_name_eq_ok.mp hname).1⟩

theorem read_eq_ok_iff_holds {p : Path} (hdir : fs.HasDirectory p) {content : List UInt8} :
    fs.read p = .ok content ↔ fs.Holds p content := by
  refine ⟨holds_of_read, fun h => read_eq_ok_iff.mpr ⟨h, ?_⟩⟩
  obtain ⟨stem, last, hcut, place, hwalk, hplace⟩ := hdir
  obtain ⟨rest, hrest, hend⟩ := hcut.ending
  have hshort := h.1.shortNames
  rw [hrest] at hshort ⊢
  cases hend with
  | none => exact ⟨place, walk_append_eq_ok.mpr ⟨place, hwalk, rfl⟩⟩
  | current => exact ⟨place, walk_append_eq_ok.mpr ⟨place, hwalk, rfl⟩⟩
  | parent =>
      exact ⟨_, walk_append_eq_ok.mpr ⟨place, hwalk, walk_parent_eq_ok.mpr ⟨hplace, rfl⟩⟩⟩
  | name =>
      have hlast := hshort last (by simp)
      exact ⟨_, walk_append_eq_ok.mpr ⟨place, hwalk, walk_name_eq_ok.mpr ⟨hplace, hlast, rfl⟩⟩⟩

theorem read_sidecar_eq_ok_iff_holds {p : Path} {ext : String} (hext : Path.IsExtension ext)
    (hdir : fs.HasDirectory p) {content : List UInt8} :
    fs.read (p.sidecar ext) = .ok content ↔ fs.Holds (p.sidecar ext) content := by
  refine ⟨holds_of_read, fun h => read_eq_ok_iff.mpr ⟨h, ?_⟩⟩
  obtain ⟨stem, last, hcut, place, hwalk, hplace⟩ := hdir
  have hshort := h.1.shortNames
  rw [hcut.sidecar ext hext] at hshort ⊢
  have hlast := hshort (last ++ "." ++ ext) (by simp)
  exact ⟨_, walk_append_eq_ok.mpr ⟨place, hwalk, walk_name_eq_ok.mpr ⟨hplace, hlast, rfl⟩⟩⟩

/-! ## Places of sidecars -/

theorem placeOf_sidecar {p : Path} {stem : List Path.Component} {last ext : String}
    (hcut : p.CutAt stem last) (hext : Path.IsExtension ext) :
    fs.placeOf (p.sidecar ext) =
      destination fs.workingDirectory stem ++ [last ++ "." ++ ext] := by
  rw [placeOf, hcut.sidecar ext hext, destination_append]
  rfl

/-- No sidecar takes the place of its path. -/
theorem placeOf_sidecar_ne_self (p : Path) {ext : String} (hext : Path.IsExtension ext) :
    fs.placeOf (p.sidecar ext) ≠ fs.placeOf p := by
  obtain ⟨stem, last, hcut⟩ := p.exists_cutAt
  obtain ⟨rest, hrest, hend⟩ := hcut.ending
  rw [placeOf_sidecar hcut hext, placeOf, hrest, destination_append]
  intro h
  have hlength := congrArg List.length h
  cases hend with
  | none => simp [destination] at hlength
  | current => simp [destination] at hlength
  | parent =>
      simp only [destination, List.length_append, List.length_dropLast, List.length_singleton]
        at hlength
      omega
  | name =>
      have hname : last ++ "." ++ ext = last := by simpa [destination] using h
      have hlong := congrArg String.length hname
      simp only [String.length_append] at hlong
      have hpos := hext.long
      omega

/-- Sidecars with different extensions have different places. -/
theorem placeOf_sidecar_ne (p : Path) {ext ext' : String} (hext : Path.IsExtension ext)
    (hext' : Path.IsExtension ext') (hne : ext ≠ ext') :
    fs.placeOf (p.sidecar ext) ≠ fs.placeOf (p.sidecar ext') := by
  obtain ⟨stem, last, hcut⟩ := p.exists_cutAt
  rw [placeOf_sidecar hcut hext, placeOf_sidecar hcut hext']
  intro h
  have hname : last ++ "." ++ ext = last ++ "." ++ ext' := by simpa using h
  refine hne (String.toList_inj.mp ?_)
  have hchars := congrArg String.toList hname
  simpa [String.toList_append] using hchars

end SuiteLint.FileSystem
