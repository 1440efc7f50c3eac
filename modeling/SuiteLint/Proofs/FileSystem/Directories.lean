import SuiteLint.Proofs.FileSystem.Change
import SuiteLint.Proofs.Text.Split

/-!
# Directories that cannot be made

The directories of a path are tried one by one, each under the text that its components spell. Such
a text has the components that it was made from (`Path.components_ofComponents`) and is no longer
than the path (`Path.sublist_text`), so whoever walks along the path finds the directories that its
fronts name (`isDirectory_of_locate`). If making them fails, then one of them is missing in the end,
and nothing beside the path can be reached (`locate_sidecar_of_ensureParent_error`).
-/

namespace SuiteLint

theorem Text.splitChars_eq_splitOn (sep : Char) (cs : List Char) :
    Text.splitChars (· == sep) cs = cs.splitOn sep := by
  rw [List.splitOn]
  induction cs with
  | nil => rfl
  | cons c cs ih =>
      rw [Text.splitChars, List.splitOnP_cons_eq_if_modifyHead, ih]
      split
      · rfl
      · cases hpieces : cs.splitOnP (· == sep) with
        | nil => exact absurd hpieces (List.splitOnP_ne_nil _ cs)
        | cons piece pieces => rfl

theorem Text.intercalate_sublist {α : Type} (sep : List α) {xs ys : List (List α)}
    (h : xs.Sublist ys) : (sep.intercalate xs).Sublist (sep.intercalate ys) := by
  induction h with
  | slnil => exact List.Sublist.refl _
  | @cons xs ys y h ih =>
      cases ys with
      | nil =>
          obtain rfl := List.sublist_nil.mp h
          exact List.nil_sublist _
      | cons z ys =>
          rw [List.intercalate_cons_cons]
          exact ih.trans (List.sublist_append_right _ _)
  | @cons_cons xs ys y h ih =>
      cases xs with
      | nil =>
          cases ys with
          | nil => exact List.Sublist.refl _
          | cons z ys =>
              rw [List.intercalate_singleton, List.intercalate_cons_cons, List.append_assoc]
              exact List.sublist_append_left _ _
      | cons x xs =>
          cases ys with
          | nil => cases h
          | cons z ys =>
              rw [List.intercalate_cons_cons, List.intercalate_cons_cons]
              exact ih.append_left (y ++ sep)

namespace Path

/-! ## Components and their texts -/

/-- A component that a piece between separators stands for. -/
structure Component.IsPiece (c : Component) : Prop where
  read : pieceComponent? c.text = some c
  noSeparator : '/' ∉ c.text.toList

/-- Components as they are read from a path: the root and a dot stand in front if at all. -/
inductive Normal : List Component → Prop
  | relative {cs : List Component} (h : ∀ c ∈ cs, c.IsPiece) : Normal cs
  | absolute {cs : List Component} (h : ∀ c ∈ cs, c.IsPiece) : Normal (.root :: cs)
  | dotted {cs : List Component} (h : ∀ c ∈ cs, c.IsPiece) : Normal (.current :: cs)

theorem text_of_pieceComponent? {piece : String} {c : Component}
    (h : pieceComponent? piece = some c) : c.text = piece := by
  rw [pieceComponent?] at h
  split at h
  · cases h
  split at h
  · rename_i hparent
    cases h
    exact (beq_iff_eq.mp hparent).symm
  · cases h
    rfl

theorem not_mem_of_mem_split {text piece : String} (h : piece ∈ Text.split (· == '/') text) :
    '/' ∉ piece.toList := by
  rw [Text.split, List.mem_map] at h
  obtain ⟨cs, hcs, rfl⟩ := h
  intro hmem
  rw [String.toList_ofList] at hmem
  have hflat := List.mem_flatten_of_mem hcs hmem
  rw [Text.flatten_splitChars, List.mem_filter] at hflat
  exact absurd hflat.2 (by decide)

theorem isPiece_of_mem_filterMap {pieces : List String}
    (hpieces : ∀ piece ∈ pieces, '/' ∉ piece.toList) :
    ∀ c ∈ pieces.filterMap pieceComponent?, c.IsPiece := by
  intro c hc
  obtain ⟨piece, hpiece, hread⟩ := List.mem_filterMap.mp hc
  have htext := text_of_pieceComponent? hread
  refine ⟨by rw [htext, hread], ?_⟩
  rw [htext]
  exact hpieces piece hpiece

theorem relativeComponents_cons (first : String) (rest : List String) :
    relativeComponents (first :: rest)
      = if first = "." then .current :: rest.filterMap pieceComponent?
        else (first :: rest).filterMap pieceComponent? := by
  rw [relativeComponents]
  by_cases hdot : first = "."
  · simp [hdot]
  · simp only [beq_iff_eq, hdot, if_false, List.filterMap_cons]
    cases pieceComponent? first <;> rfl

theorem normal_components (p : Path) : Normal p.components := by
  have hpieces : ∀ piece ∈ Text.split (· == '/') p.text, '/' ∉ piece.toList :=
    fun _ => not_mem_of_mem_split
  rw [components]
  split
  · exact .absolute (isPiece_of_mem_filterMap hpieces)
  · cases hsplit : Text.split (· == '/') p.text with
    | nil => exact .relative fun c hc => absurd hc List.not_mem_nil
    | cons first rest =>
        rw [hsplit] at hpieces
        rw [relativeComponents_cons]
        split
        · exact .dotted (isPiece_of_mem_filterMap (List.forall_mem_cons.mp hpieces).2)
        · exact .relative (isPiece_of_mem_filterMap hpieces)

theorem Normal.of_prefix {cs xs : List Component} (h : Normal cs) (hxs : xs <+: cs) :
    Normal xs := by
  cases xs with
  | nil => exact .relative fun c hc => absurd hc List.not_mem_nil
  | cons x xs =>
      obtain ⟨rest, rfl⟩ := hxs
      cases h with
      | relative h => exact .relative fun c hc => h c (List.mem_append_left rest hc)
      | absolute h => exact .absolute fun c hc => h c (List.mem_append_left rest hc)
      | dotted h => exact .dotted fun c hc => h c (List.mem_append_left rest hc)

/-- Pieces that are put together are the pieces that are read. -/
theorem split_intercalate {pieces : List String} (hne : pieces ≠ [])
    (hpieces : ∀ piece ∈ pieces, '/' ∉ piece.toList) :
    Text.split (· == '/') ("/".intercalate pieces) = pieces := by
  have hlists : ∀ cs ∈ pieces.map String.toList, '/' ∉ cs := by
    intro cs hcs
    obtain ⟨piece, hpiece, rfl⟩ := List.mem_map.mp hcs
    exact hpieces piece hpiece
  rw [Text.split, Text.splitChars_eq_splitOn, String.toList_intercalate]
  show List.map String.ofList (List.splitOn '/' (['/'].intercalate _)) = pieces
  rw [List.splitOn_intercalate '/' hlists (by simpa using hne), List.map_map]
  simp

theorem filterMap_map_text {cs : List Component} (h : ∀ c ∈ cs, c.IsPiece) :
    (cs.map Component.text).filterMap pieceComponent? = cs := by
  induction cs with
  | nil => rfl
  | cons c cs ih =>
      rw [List.forall_mem_cons] at h
      rw [List.map_cons, List.filterMap_cons, h.1.read, ih h.2]

theorem not_mem_of_mem_map_text {cs : List Component} (h : ∀ c ∈ cs, c.IsPiece) :
    ∀ piece ∈ cs.map Component.text, '/' ∉ piece.toList := by
  intro piece hpiece
  obtain ⟨c, hc, rfl⟩ := List.mem_map.mp hpiece
  exact (h c hc).noSeparator

/-- A path that starts with a piece is relative. -/
theorem components_intercalate {first : String} {rest : List String} (hne : first ≠ "")
    (hpieces : ∀ piece ∈ first :: rest, '/' ∉ piece.toList) :
    (Path.mk ("/".intercalate (first :: rest))).components
      = relativeComponents (first :: rest) := by
  have hrelative : isAbsolute ⟨"/".intercalate (first :: rest)⟩ = false := by
    refine Bool.eq_false_iff.mpr fun habs => ?_
    obtain ⟨tail, htail⟩ := Text.startsWith_iff.mp habs
    obtain ⟨c, cs, hfirst⟩ := List.exists_cons_of_ne_nil (mt String.toList_eq_nil_iff.mp hne)
    have hc : '/' = c := by
      rw [String.toList_intercalate, List.map_cons, hfirst] at htail
      cases rest with
      | nil => exact (List.cons.inj htail).1
      | cons second rest => exact (List.cons.inj htail).1
    refine hpieces first List.mem_cons_self ?_
    rw [hfirst, hc]
    exact List.mem_cons_self
  rw [components, hrelative, if_neg Bool.false_ne_true,
    split_intercalate (List.cons_ne_nil _ _) hpieces]

theorem split_separator_append (text : String) :
    Text.split (· == '/') ("/" ++ text) = "" :: Text.split (· == '/') text := by
  rw [Text.split, String.toList_append]
  rfl

/-- The text of components has these components. -/
theorem components_ofComponents {cs : List Component} (h : Normal cs) :
    (ofComponents cs).components = cs := by
  cases h with
  | @relative cs h =>
      cases cs with
      | nil => rfl
      | cons c cs =>
          have hread := (h c List.mem_cons_self).read
          have hempty : c.text ≠ "" := by
            intro hc
            rw [hc] at hread
            cases hread
          have hdot : c.text ≠ "." := by
            intro hc
            rw [hc] at hread
            cases hread
          have hof : ofComponents (c :: cs) = ⟨"/".intercalate ((c :: cs).map Component.text)⟩ := by
            cases c with
            | root => cases hread
            | _ => rfl
          rw [hof, List.map_cons, components_intercalate hempty (not_mem_of_mem_map_text h),
            relativeComponents_cons, if_neg hdot]
          exact filterMap_map_text h
  | @absolute cs h =>
      have habs : isAbsolute (ofComponents (.root :: cs)) = true :=
        Text.startsWith_iff.mpr ⟨("/".intercalate (cs.map Component.text)).toList, by
          rw [ofComponents, String.toList_append]⟩
      rw [components, if_pos habs, ofComponents, split_separator_append]
      cases cs with
      | nil => rfl
      | cons c cs =>
          rw [split_intercalate (by simp) (not_mem_of_mem_map_text h)]
          exact congrArg _ (filterMap_map_text h)
  | @dotted cs h =>
      have hpieces : ∀ piece ∈ "." :: cs.map Component.text, '/' ∉ piece.toList :=
        List.forall_mem_cons.mpr ⟨by decide, not_mem_of_mem_map_text h⟩
      rw [show ofComponents (.current :: cs) = ⟨"/".intercalate ("." :: cs.map Component.text)⟩
        from rfl, components_intercalate (by decide) hpieces, relativeComponents_cons, if_pos rfl,
        filterMap_map_text h]

theorem intercalate_split (text : String) :
    "/".intercalate (Text.split (· == '/') text) = text := by
  rw [← String.toList_inj, String.toList_intercalate, Text.split, List.map_map,
    Text.splitChars_eq_splitOn]
  have hlists : ∀ pieces : List (List Char), pieces.map (String.toList ∘ String.ofList) = pieces :=
    fun pieces => by simp
  rw [hlists]
  exact List.intercalate_splitOn '/'

theorem map_text_filterMap_sublist (pieces : List String) :
    ((pieces.filterMap pieceComponent?).map Component.text).Sublist pieces := by
  induction pieces with
  | nil => exact List.Sublist.refl _
  | cons piece pieces ih =>
      rw [List.filterMap_cons]
      split
      · exact ih.cons piece
      · rename_i c hread
        rw [List.map_cons, text_of_pieceComponent? hread]
        exact ih.cons_cons piece

theorem root_not_mem_filterMap (pieces : List String) :
    .root ∉ pieces.filterMap pieceComponent? := by
  intro hmem
  obtain ⟨piece, -, hread⟩ := List.mem_filterMap.mp hmem
  rcases pieceComponent?_cases piece with h | h | h
  all_goals
    rw [hread] at h
    cases h

/-- The pieces of a relative path that stand for components are the texts of these. -/
theorem map_text_relativeComponents_sublist (pieces : List String) :
    ((relativeComponents pieces).map Component.text).Sublist pieces
      ∧ .root ∉ relativeComponents pieces := by
  cases pieces with
  | nil => exact ⟨List.Sublist.refl _, List.not_mem_nil⟩
  | cons first rest =>
      rw [relativeComponents_cons]
      split
      · rename_i hdot
        rw [List.map_cons, hdot]
        refine ⟨(map_text_filterMap_sublist rest).cons_cons ".", fun hmem => ?_⟩
        rcases List.mem_cons.mp hmem with h | h
        · cases h
        · exact root_not_mem_filterMap rest h
      · exact ⟨map_text_filterMap_sublist _, root_not_mem_filterMap _⟩

theorem text_ofComponents {cs : List Component} (h : .root ∉ cs) :
    (ofComponents cs).text = "/".intercalate (cs.map Component.text) := by
  rw [ofComponents]
  rintro rest rfl
  exact h List.mem_cons_self

/-- The text of the first components of a path is a part of its text. -/
theorem sublist_text (p : Path) {cs : List Component} (h : cs <+: p.components) :
    (ofComponents cs).text.toList.Sublist p.text.toList := by
  rw [components] at h
  split at h
  · rename_i habs
    cases cs with
    | nil => exact List.nil_sublist _
    | cons c cs =>
        obtain ⟨rfl, hcs⟩ := List.cons_prefix_cons.mp h
        obtain ⟨tail, htail⟩ := Text.startsWith_iff.mp habs
        obtain ⟨rest, rfl⟩ : ∃ rest : String, tail = rest.toList := ⟨String.ofList tail, by simp⟩
        obtain rfl : p = ⟨"/" ++ rest⟩ := by
          rw [Path.mk.injEq, ← String.toList_inj, ← htail, String.toList_append]
        have hsub : (cs.map Component.text).Sublist (Text.split (· == '/') rest) := by
          rw [split_separator_append] at hcs
          replace hcs : cs <+: (Text.split (· == '/') rest).filterMap pieceComponent? := hcs
          exact (hcs.sublist.map _).trans (map_text_filterMap_sublist _)
        rw [ofComponents, String.toList_append, String.toList_append]
        refine List.Sublist.append_left ?_ _
        rw [← intercalate_split rest, String.toList_intercalate, String.toList_intercalate]
        exact Text.intercalate_sublist _ (hsub.map _)
  · obtain ⟨hsub, hroot⟩ := map_text_relativeComponents_sublist (Text.split (· == '/') p.text)
    rw [text_ofComponents fun hmem => hroot (h.subset hmem), ← intercalate_split p.text,
      String.toList_intercalate, String.toList_intercalate]
    exact Text.intercalate_sublist _ (((h.sublist.map _).trans hsub).map _)

theorem Normal.isPiece {xs ys : List Component} {c : Component} (h : Normal (xs ++ c :: ys))
    (hxs : xs ≠ []) : c.IsPiece := by
  obtain ⟨x, xs, rfl⟩ := List.exists_cons_of_ne_nil hxs
  have hmem : c ∈ xs ++ c :: ys := List.mem_append_right xs List.mem_cons_self
  cases h with
  | relative h => exact h c (List.mem_cons_of_mem x hmem)
  | absolute h => exact h c hmem
  | dotted h => exact h c hmem

end Path

theorem utf8ByteSize_le_of_sublist {cs ds : List Char} (h : cs.Sublist ds) :
    (String.ofList cs).utf8ByteSize ≤ (String.ofList ds).utf8ByteSize := by
  have hcons : ∀ (c : Char) (cs : List Char), (String.ofList (c :: cs)).utf8ByteSize
      = (String.ofList [c]).utf8ByteSize + (String.ofList cs).utf8ByteSize := fun c cs => by
    rw [← String.utf8ByteSize_append, ← String.ofList_append, List.singleton_append]
  induction h with
  | slnil => exact Nat.le_refl _
  | @cons cs ds c _ ih =>
      rw [hcons c ds]
      omega
  | @cons_cons cs ds c _ ih =>
      rw [hcons c cs, hcons c ds]
      omega

/-! ## Making directories -/

namespace FileSystem

open SuiteLint.Path (Component Normal ofComponents)

variable {fs gs : FileSystem} {p : Path} {cs xs ys : List Component} {c : Component}

/-- The system takes the text of the first components of a path that it takes. -/
theorem Acceptable.of_prefix (hp : Acceptable p) (h : cs <+: p.components) (hne : cs ≠ []) :
    Acceptable (ofComponents cs) where
  noZero := by
    have hzero : '\x00' ∉ p.text.toList := by simpa using hp.noZero
    have hmem : '\x00' ∉ (ofComponents cs).text.toList := fun hmem =>
      hzero ((p.sublist_text h).subset hmem)
    simpa using hmem
  nonempty := by
    refine beq_eq_false_iff_ne.mpr fun hempty => hne ?_
    have hof : ofComponents cs = ⟨""⟩ := by rw [← hempty]
    rw [← Path.components_ofComponents (p.normal_components.of_prefix h), hof]
    rfl
  short := by
    have hle := utf8ByteSize_le_of_sublist (p.sublist_text h)
    rw [String.ofList_toList, String.ofList_toList] at hle
    exact Nat.le_trans hle hp.short

theorem isDirectory_iff :
    fs.isDirectory p = true ↔ ∃ place, fs.lookup p = .ok (place, .directory) := by
  rw [isDirectory]
  split
  · rename_i place hlookup
    simp [hlookup]
  · rename_i hno
    constructor
    · intro h
      cases h
    · rintro ⟨place, hlookup⟩
      exact absurd hlookup (hno place)

/-- The way through a component leads over a directory. -/
theorem exists_directory_of_walk {q : Place} (hnormal : Normal (xs ++ c :: ys)) (hxs : xs ≠ [])
    (hwalk : fs.walk fs.workingDirectory (xs ++ c :: ys) = .ok q) :
    ∃ mid, fs.walk fs.workingDirectory xs = .ok mid ∧ fs.node? mid = some .directory := by
  obtain ⟨mid, hmid, hrest⟩ := walk_append_eq_ok.mp hwalk
  refine ⟨mid, hmid, ?_⟩
  have hpiece := (hnormal.isPiece hxs).read
  cases c with
  | root => cases hpiece
  | current => cases hpiece
  | parent => exact (walk_parent_eq_ok.mp hrest).1
  | name n => exact (walk_name_eq_ok.mp hrest).1

/-- Whoever comes along a path finds the directories that it leads over. -/
theorem isDirectory_of_locate {q : Place} (hlocate : fs.locate p = .ok q)
    (hp : p.components = xs ++ c :: ys) (hxs : xs ≠ []) :
    fs.isDirectory (ofComponents xs) = true := by
  obtain ⟨hacceptable, hwalk, -⟩ := locate_eq_ok.mp hlocate
  have hprefix : xs <+: p.components := ⟨c :: ys, hp.symm⟩
  have hnormal := p.normal_components
  rw [hp] at hwalk hnormal
  obtain ⟨mid, hmid, hdirectory⟩ := exists_directory_of_walk hnormal hxs hwalk
  have hfront : fs.locate (ofComponents xs) = .ok mid := by
    refine locate_eq_ok.mpr ⟨hacceptable.of_prefix hprefix hxs, ?_, fun _ => hdirectory⟩
    rw [Path.components_ofComponents (p.normal_components.of_prefix hprefix)]
    exact hmid
  exact isDirectory_iff.mpr ⟨mid, lookup_eq_ok.mpr ⟨hfront, fun _ => hdirectory, hdirectory⟩⟩

theorem isDirectory_of_orDirectory_error {outcome : Outcome Unit} {error : SystemError}
    (h : orDirectory p outcome = (.error error, gs)) : gs.isDirectory p = false := by
  unfold orDirectory at h
  split at h
  · cases h
  · split at h
    · cases h
    · rename_i hno
      cases h
      exact Bool.eq_false_iff.mpr hno

/-- If a directory cannot be made, then it is not there. -/
theorem isDirectory_of_makeDirectoriesUp_error {error : SystemError} (hnormal : Normal cs.reverse)
    (h : fs.makeDirectoriesUp cs = (.error error, gs)) :
    gs.isDirectory (ofComponents cs.reverse) = false := by
  induction cs generalizing fs with
  | nil => cases h
  | cons last above ih =>
      rw [makeDirectoriesUp] at h
      split at h
      · rename_i mid _
        split at h
        · exact isDirectory_of_orDirectory_error h
        · -- The directory above could not be made, so the way ends before the last component.
          rw [List.reverse_cons] at hnormal ⊢
          have habove : above.reverse ≠ [] := by
            intro hnil
            rw [List.reverse_eq_nil_iff.mp hnil] at h
            cases h
          have hmissing := ih (hnormal.of_prefix (List.prefix_append _ _)) h
          refine Bool.eq_false_iff.mpr fun hthere => ?_
          obtain ⟨place, hlookup⟩ := isDirectory_iff.mp hthere
          have hlocate := (lookup_eq_ok.mp hlookup).1
          have hfront := isDirectory_of_locate hlocate (Path.components_ofComponents hnormal) habove
          rw [hmissing] at hfront
          cases hfront
      · exact isDirectory_of_orDirectory_error h

theorem eq_of_parent?_eq_some {parent : Path} (h : p.parent? = some parent) :
    parent = ofComponents p.components.dropLast := by
  rw [Path.parent?] at h
  split at h
  · cases h
  · cases h
  · exact (Option.some.inj h).symm

/-- The sidecars of a path lie in its parent or below. -/
theorem exists_components_sidecar {ext : String} (hext : Path.IsExtension ext) (p : Path) :
    ∃ c ys, (p.sidecar ext).components = p.components.dropLast ++ c :: ys := by
  obtain ⟨stem, last, hcut⟩ := p.exists_cutAt
  obtain ⟨rest, hrest, hending⟩ := hcut.ending
  obtain ⟨more, hmore⟩ : p.components.dropLast <+: stem := by
    rw [hrest]
    cases hending with
    | none =>
        rw [List.append_nil]
        exact List.dropLast_prefix stem
    | current | parent | name => exact ⟨[], by simp⟩
  rw [hcut.sidecar ext hext, ← hmore, List.append_assoc]
  cases more with
  | nil => exact ⟨_, [], rfl⟩
  | cons c more => exact ⟨c, _, rfl⟩

/-- If the directory of a path cannot be made, nothing beside the path can be reached. -/
theorem locate_sidecar_of_ensureParent_error {error : SystemError} {ext : String}
    (hext : Path.IsExtension ext) (h : fs.ensureParent p = (.error error, gs)) (q : Place) :
    gs.locate (p.sidecar ext) ≠ .ok q := by
  intro hlocate
  rw [ensureParent] at h
  split at h
  · rename_i parent hparent
    obtain rfl := eq_of_parent?_eq_some hparent
    have hnormal := p.normal_components.of_prefix (List.dropLast_prefix _)
    rw [makeDirectories, Path.components_ofComponents hnormal] at h
    have hne : p.components.dropLast ≠ [] := by
      intro hnil
      rw [hnil] at h
      cases h
    obtain ⟨c, ys, hcomponents⟩ := exists_components_sidecar hext p
    have hthere := isDirectory_of_locate hlocate hcomponents hne
    have hmissing := isDirectory_of_makeDirectoriesUp_error (by rwa [List.reverse_reverse]) h
    rw [List.reverse_reverse, hthere] at hmissing
    cases hmissing
  · cases h

end FileSystem

end SuiteLint
