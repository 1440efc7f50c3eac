import SuiteLint.Path

/-!
# Files beside a file

A sidecar of a path has the components of the path up to the last piece of its text, and then one
name: the piece with the extension behind it. So all sidecars of a path lie in one directory, and
none of them is the path itself (`exists_cutAt`).
-/

namespace SuiteLint

/-! ## Cutting behind an extension -/

theorem Text.splitChars_of_not_sep {sep : Char → Bool} {cs : List Char}
    (h : ∀ c ∈ cs, sep c = false) : Text.splitChars sep cs = [cs] := by
  induction cs with
  | nil => rfl
  | cons c cs ih =>
      have hc : sep c = false := h c List.mem_cons_self
      have hcs := ih fun d hd => h d (List.mem_cons_of_mem c hd)
      rw [Text.splitChars, hc, hcs]
      rfl

/-- What follows the last separator goes into the last piece. -/
theorem Text.exists_splitChars_append (sep : Char → Bool) (cs : List Char) :
    ∃ front last, Text.splitChars sep cs = front ++ [last] ∧
      ∀ tail, (∀ c ∈ tail, sep c = false) →
        Text.splitChars sep (cs ++ tail) = front ++ [last ++ tail] := by
  induction cs with
  | nil => exact ⟨[], [], rfl, fun tail h => Text.splitChars_of_not_sep h⟩
  | cons c cs ih =>
      obtain ⟨front, last, hsplit, hback⟩ := ih
      by_cases hc : sep c
      · refine ⟨[] :: front, last, ?_, ?_⟩
        · rw [Text.splitChars, if_pos hc, hsplit]
          rfl
        · intro tail htail
          rw [List.cons_append, Text.splitChars, if_pos hc, hback tail htail]
          rfl
      · cases front with
        | nil =>
            refine ⟨[], c :: last, ?_, ?_⟩
            · rw [Text.splitChars, if_neg hc, hsplit]
              rfl
            · intro tail htail
              rw [List.cons_append, Text.splitChars, if_neg hc, hback tail htail]
              rfl
        | cons piece front =>
            refine ⟨(c :: piece) :: front, last, ?_, ?_⟩
            · rw [Text.splitChars, if_neg hc, hsplit]
              rfl
            · intro tail htail
              rw [List.cons_append, Text.splitChars, if_neg hc, hback tail htail]
              rfl

namespace Path

/-- A text that can stand behind a dot at the end of a file name. -/
structure IsExtension (ext : String) : Prop where
  noSeparator : '/' ∉ ext.toList
  /-- With two characters at least, no piece that ends in it is a dot or two dots. -/
  long : 2 ≤ ext.length

/-- The pieces of a path and of its sidecars are the same up to the last one. -/
theorem exists_pieces (p : Path) : ∃ front last,
    Text.split (· == '/') p.text = front ++ [last] ∧
      ∀ ext, IsExtension ext →
        Text.split (· == '/') (p.sidecar ext).text = front ++ [last ++ "." ++ ext] := by
  obtain ⟨front, last, hsplit, hback⟩ :=
    Text.exists_splitChars_append (· == '/') p.text.toList
  refine ⟨front.map String.ofList, String.ofList last, ?_, ?_⟩
  · rw [Text.split, hsplit, List.map_append]
    rfl
  · intro ext hext
    have htail : ∀ c ∈ '.' :: ext.toList, (c == '/') = false := by
      intro c hc
      rcases List.mem_cons.mp hc with rfl | hc
      · rfl
      · exact beq_eq_false_iff_ne.mpr fun h => hext.noSeparator (h ▸ hc)
    have htext : (p.sidecar ext).text.toList = p.text.toList ++ '.' :: ext.toList := by
      simp [sidecar, String.toList_append]
    have hlast : String.ofList (last ++ '.' :: ext.toList) = String.ofList last ++ "." ++ ext := by
      rw [← String.toList_inj]
      simp [String.toList_append]
    rw [Text.split, htext, hback _ htail, List.map_append, List.map_singleton, hlast]

theorem isAbsolute_sidecar (p : Path) (ext : String) :
    (p.sidecar ext).isAbsolute = p.isAbsolute := by
  have htext : (p.sidecar ext).text.toList = p.text.toList ++ '.' :: ext.toList := by
    simp [sidecar, String.toList_append]
  rw [isAbsolute, isAbsolute, Text.startsWith, Text.startsWith, htext]
  cases p.text.toList with
  | nil => rfl
  | cons c cs =>
      show (Text.dropFront? ['/'] (c :: (cs ++ '.' :: ext.toList))).isSome =
        (Text.dropFront? ['/'] (c :: cs)).isSome
      simp only [Text.dropFront?]
      split <;> rfl

theorem pieceComponent?_append_ext (last : String) {ext : String} (h : IsExtension ext) :
    pieceComponent? (last ++ "." ++ ext) = some (.name (last ++ "." ++ ext)) := by
  have hlong : 2 < (last ++ "." ++ ext).length := by
    have hext := h.long
    simp only [String.length_append]
    show 2 < last.length + 1 + ext.length
    omega
  have hne : ∀ s : String, s.length ≤ 2 → (last ++ "." ++ ext == s) = false := by
    intro s hs
    refine beq_eq_false_iff_ne.mpr fun heq => ?_
    rw [heq] at hlong
    omega
  rw [pieceComponent?, hne "" (by decide), hne "." (by decide), hne ".." (by decide)]
  rfl

theorem pieceComponent?_cases (piece : String) :
    (pieceComponent? piece).toList = [] ∨ (pieceComponent? piece).toList = [.parent] ∨
      (pieceComponent? piece).toList = [.name piece] := by
  rw [pieceComponent?]
  split
  · exact Or.inl rfl
  · split
    · exact Or.inr (Or.inl rfl)
    · exact Or.inr (Or.inr rfl)

/-! ## The directory of a path -/

/-- What a path may end in behind the directory that its sidecars lie in. -/
inductive Ending (last : String) : List Component → Prop
  | none : Ending last []
  | current : Ending last [.current]
  | parent : Ending last [.parent]
  | name : Ending last [.name last]

theorem ending_pieceComponent? (last : String) : Ending last (pieceComponent? last).toList := by
  rcases pieceComponent?_cases last with h | h | h
  · exact h ▸ .none
  · exact h ▸ .parent
  · exact h ▸ .name

/-- The sidecars of a path lie behind `stem`, under the name `last` and their extension. -/
structure CutAt (p : Path) (stem : List Component) (last : String) : Prop where
  ending : ∃ rest, p.components = stem ++ rest ∧ Ending last rest
  sidecar : ∀ ext, IsExtension ext →
    (p.sidecar ext).components = stem ++ [.name (last ++ "." ++ ext)]

theorem relativeComponents_append_singleton (first : String) (front : List String)
    (last : String) :
    relativeComponents (first :: front ++ [last]) =
      relativeComponents (first :: front) ++ (pieceComponent? last).toList := by
  have hlast : [last].filterMap pieceComponent? = (pieceComponent? last).toList := by
    cases h : pieceComponent? last <;> simp [h]
  simp only [List.cons_append, relativeComponents, List.filterMap_append, hlast]
  split
  · rfl
  · rw [List.append_assoc]

/-- Every path has such a directory. -/
theorem exists_cutAt (p : Path) : ∃ stem last, p.CutAt stem last := by
  obtain ⟨front, last, hpieces, hback⟩ := p.exists_pieces
  by_cases habs : p.isAbsolute
  · refine ⟨.root :: front.filterMap pieceComponent?, last, ?_, ?_⟩
    · refine ⟨_, ?_, ending_pieceComponent? last⟩
      rw [components, if_pos habs, hpieces, List.filterMap_append]
      cases h : pieceComponent? last <;> simp [h]
    · intro ext hext
      rw [components, isAbsolute_sidecar, if_pos habs, hback ext hext, List.filterMap_append]
      simp [pieceComponent?_append_ext last hext]
  · cases front with
    | nil =>
        refine ⟨[], last, ?_, ?_⟩
        · rw [components, if_neg habs, hpieces]
          by_cases hdot : last == "."
          · refine ⟨[.current], ?_, .current⟩
            simp [relativeComponents, hdot]
          · refine ⟨_, ?_, ending_pieceComponent? last⟩
            simp [relativeComponents, hdot]
        · intro ext hext
          have hpiece := pieceComponent?_append_ext last hext
          have hdot : (last ++ "." ++ ext == ".") = false := by
            refine beq_eq_false_iff_ne.mpr fun heq => ?_
            rw [heq] at hpiece
            cases hpiece
          rw [components, isAbsolute_sidecar, if_neg habs, hback ext hext, List.nil_append,
            relativeComponents, hdot, hpiece]
          rfl
    | cons first front =>
        refine ⟨relativeComponents (first :: front), last, ?_, ?_⟩
        · refine ⟨_, ?_, ending_pieceComponent? last⟩
          rw [components, if_neg habs, hpieces, relativeComponents_append_singleton]
        · intro ext hext
          rw [components, isAbsolute_sidecar, if_neg habs, hback ext hext,
            relativeComponents_append_singleton, pieceComponent?_append_ext last hext]
          rfl

end Path

end SuiteLint
