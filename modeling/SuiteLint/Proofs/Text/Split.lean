import Mathlib.Data.List.TakeWhile
import SuiteLint.Text.Split

/-!
# Cutting texts and putting them together

A text with a separator in it falls apart at the last one in one way only: what follows is free of
the separator. `splitLast?_eq_some_iff` and `splitLast?_eq_none_iff` tell `splitLast?` by that, and
`simpleName_eq_iff` the last segment of a dotted name. What is put in front of a text or behind it
can be taken away again (`stripFront?_append`, `stripBack?_append`). Cutting between white space
loses nothing else (`flatten_splitChars`), so a text that is more than white space has a word in it
(`fields_trim_ne_nil`).
-/

namespace SuiteLint.Text

variable {sep : Char}

/-! ## Lists of characters -/

theorem exists_last_of_mem {cs : List Char} (h : sep ∈ cs) :
    ∃ before after, cs = before ++ sep :: after ∧ sep ∉ after := by
  obtain ⟨back, front, hcs, hback⟩ := List.eq_append_cons_of_mem (List.mem_reverse.mpr h)
  refine ⟨front.reverse, back.reverse, ?_, fun hmem => hback (List.mem_reverse.mp hmem)⟩
  rw [← List.reverse_reverse cs, hcs]
  simp

theorem bne_of_mem_reverse {cs : List Char} (h : sep ∉ cs) :
    ∀ c ∈ cs.reverse, (c != sep) = true := by
  intro c hc
  rw [bne_iff_ne]
  rintro rfl
  exact h (List.mem_reverse.mp hc)

theorem lastPieceChars_of_not_mem {cs : List Char} (h : sep ∉ cs) :
    lastPieceChars (· == sep) cs = cs := by
  have hall : cs.reverse.takeWhile (fun c => !(c == sep)) = cs.reverse :=
    List.takeWhile_eq_self_iff.mpr (bne_of_mem_reverse h)
  rw [lastPieceChars, hall, List.reverse_reverse]

theorem lastPieceChars_append {before after : List Char} (h : sep ∉ after) :
    lastPieceChars (· == sep) (before ++ sep :: after) = after := by
  rw [lastPieceChars, List.reverse_append, List.reverse_cons, List.append_assoc,
    List.takeWhile_append_of_pos (p := fun c => !(c == sep)) (bne_of_mem_reverse h)]
  simp

theorem splitLastChars?_of_not_mem {cs : List Char} (h : sep ∉ cs) :
    splitLastChars? sep cs = none := by
  rw [splitLastChars?, List.dropWhile_eq_nil_iff.mpr (bne_of_mem_reverse h)]

theorem splitLastChars?_append {before after : List Char} (h : sep ∉ after) :
    splitLastChars? sep (before ++ sep :: after) = some (before, after) := by
  have hdrop : (before ++ sep :: after).reverse.dropWhile (· != sep) = sep :: before.reverse := by
    rw [List.reverse_append, List.reverse_cons, List.append_assoc,
      List.dropWhile_append_of_pos (bne_of_mem_reverse h)]
    simp
  rw [splitLastChars?, hdrop, lastPieceChars_append h]
  simp

theorem dropFront?_append {α : Type} [BEq α] [ReflBEq α] (front rest : List α) :
    dropFront? front (front ++ rest) = some rest := by
  induction front with
  | nil => rfl
  | cons a front ih => simp [dropFront?, ih]

theorem dropBack?_append {α : Type} [BEq α] [ReflBEq α] (rest back : List α) :
    dropBack? back (rest ++ back) = some rest := by
  rw [dropBack?, List.reverse_append, dropFront?_append]
  simp

theorem dropFront?_eq_some_iff {α : Type} [BEq α] [LawfulBEq α] {front cs rest : List α} :
    dropFront? front cs = some rest ↔ cs = front ++ rest := by
  constructor
  · intro h
    induction front generalizing cs with
    | nil => exact Option.some.inj h
    | cons a front ih =>
        cases cs with
        | nil => cases h
        | cons b cs =>
            rw [dropFront?] at h
            split at h
            · rename_i hab
              rw [beq_iff_eq.mp hab, ih h, List.cons_append]
            · cases h
  · rintro rfl
    exact dropFront?_append front rest

theorem isSome_dropFront?_iff {α : Type} [BEq α] [LawfulBEq α] {front cs : List α} :
    (dropFront? front cs).isSome = true ↔ front <+: cs := by
  rw [Option.isSome_iff_exists, List.IsPrefix]
  refine exists_congr fun rest => ?_
  rw [dropFront?_eq_some_iff, eq_comm]

/-- Cutting at separators loses the separators and nothing else. -/
theorem flatten_splitChars (sep : Char → Bool) (cs : List Char) :
    (splitChars sep cs).flatten = cs.filter fun c => !sep c := by
  induction cs with
  | nil => rfl
  | cons c cs ih =>
      rw [splitChars]
      cases hc : sep c with
      | true => simpa [hc] using ih
      | false =>
          cases hpieces : splitChars sep cs with
          | nil =>
              rw [hpieces] at ih
              simp [hc, ← ih]
          | cons piece pieces =>
              rw [hpieces] at ih
              simp [hc, ← ih]

/-! ## Texts -/

theorem startsWith_iff {front s : String} :
    startsWith front s = true ↔ front.toList <+: s.toList := isSome_dropFront?_iff

theorem endsWith_iff {back s : String} : endsWith back s = true ↔ back.toList <:+ s.toList := by
  rw [endsWith, dropBack?, Option.isSome_map, isSome_dropFront?_iff, List.reverse_prefix]

/-- What is left of a text without the white space around it has a word in it. -/
theorem fields_trim_ne_nil {s : String} (h : trim s ≠ "") : fields (trim s) ≠ [] := by
  have hne : trimChars s.toList ≠ [] := fun hnil => h (by rw [trim, hnil])
  obtain ⟨c, hc, hblank⟩ : ∃ c ∈ trimChars s.toList, isBlank c = false := by
    rw [trimChars, List.reverse_ne_nil_iff] at hne
    refine ⟨_, List.mem_reverse.mpr (List.head_mem hne), List.head_dropWhile_not isBlank _⟩
  intro hnil
  have hflat : (fieldChars (trimChars s.toList)).flatten = (trimChars s.toList).filter fun c =>
      !isBlank c := List.flatten_filter_not_isEmpty.trans (flatten_splitChars isBlank _)
  have hfields : fieldChars (trimChars s.toList) = [] := by
    simpa [fields, trim] using hnil
  have hmem : c ∈ (trimChars s.toList).filter fun c => !isBlank c :=
    List.mem_filter.mpr ⟨hc, by rw [hblank, Bool.not_false]⟩
  rw [← hflat, hfields] at hmem
  cases hmem

theorem stripFront?_append (front s : String) : stripFront? front (front ++ s) = some s := by
  rw [stripFront?, String.toList_append, dropFront?_append]
  simp

theorem stripBack?_append (s back : String) : stripBack? back (s ++ back) = some s := by
  rw [stripBack?, String.toList_append, dropBack?_append]
  simp

theorem splitLast?_append {before after : String} (h : sep ∉ after.toList) :
    splitLast? sep (before ++ String.singleton sep ++ after) = some (before, after) := by
  have hlist : (before ++ String.singleton sep ++ after).toList
      = before.toList ++ sep :: after.toList := by simp
  rw [splitLast?, hlist, splitLastChars?_append h]
  simp

theorem splitLast?_eq_none_iff {s : String} : splitLast? sep s = none ↔ sep ∉ s.toList := by
  refine ⟨fun hnone hmem => ?_, fun h => by rw [splitLast?, splitLastChars?_of_not_mem h]; rfl⟩
  obtain ⟨before, after, hs, hafter⟩ := exists_last_of_mem hmem
  rw [splitLast?, hs, splitLastChars?_append hafter] at hnone
  cases hnone

/-- A text is cut at the last separator: there is none behind the cut. -/
theorem splitLast?_eq_some_iff {s before after : String} :
    splitLast? sep s = some (before, after) ↔
      s = before ++ String.singleton sep ++ after ∧ sep ∉ after.toList := by
  constructor
  · intro hcut
    have hmem : sep ∈ s.toList := by
      by_contra hmem
      rw [splitLast?_eq_none_iff.mpr hmem] at hcut
      cases hcut
    obtain ⟨front, back, hs, hback⟩ := exists_last_of_mem hmem
    rw [splitLast?, hs, splitLastChars?_append hback] at hcut
    obtain ⟨rfl, rfl⟩ := Prod.mk.inj (Option.some.inj hcut)
    refine ⟨?_, by simpa using hback⟩
    rw [← String.toList_inj, hs]
    simp
  · rintro ⟨rfl, hafter⟩
    exact splitLast?_append hafter

/-- The last segment of a dotted name is what stands alone, or behind the last dot. -/
theorem simpleName_eq_iff {s segment : String} :
    simpleName s = segment ↔
      '.' ∉ segment.toList ∧ (s = segment ∨ ∃ qualifier, s = qualifier ++ "." ++ segment) := by
  constructor
  · rintro rfl
    by_cases hmem : '.' ∈ s.toList
    · obtain ⟨front, back, hs, hback⟩ := exists_last_of_mem hmem
      have hsegment : (simpleName s).toList = back := by
        rw [simpleName, lastPiece, hs, lastPieceChars_append hback, String.toList_ofList]
      rw [hsegment]
      refine ⟨hback, Or.inr ⟨String.ofList front, ?_⟩⟩
      rw [← String.toList_inj, hs, String.toList_append, hsegment]
      simp
    · have hsegment : simpleName s = s := by
        rw [simpleName, lastPiece, lastPieceChars_of_not_mem hmem, String.ofList_toList]
      rw [hsegment]
      exact ⟨hmem, Or.inl rfl⟩
  · rintro ⟨hdot, rfl | ⟨qualifier, rfl⟩⟩
    · rw [simpleName, lastPiece, lastPieceChars_of_not_mem hdot, String.ofList_toList]
    · have hlist : (qualifier ++ "." ++ segment).toList
          = qualifier.toList ++ '.' :: segment.toList := by simp
      rw [simpleName, lastPiece, hlist, lastPieceChars_append hdot, String.ofList_toList]

end SuiteLint.Text
