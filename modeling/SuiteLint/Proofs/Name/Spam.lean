import SuiteLint.Name.Spam

/-!
# Names that repeat themselves

`hasLongRun` counts how often the last character stands at the end of what it has read, and starts
again at every other character. What it has read matters only by that count: the characters in front
of the last change cannot be part of a run that is still open (`hasRun_replicate_append`). So the
count says whether a run of `spamRun` equal characters stands anywhere in the text
(`hasLongRun_iff`), wherever it starts. `isSpam_iff` puts this together with the words that stand
twice in a row.
-/

namespace SuiteLint.Name

/-! ## Neighbours -/

theorem hasEqualNeighbours_iff {α : Type} [BEq α] [LawfulBEq α] {xs : List α} :
    hasEqualNeighbours xs = true ↔ ∃ i x, xs[i]? = some x ∧ xs[i + 1]? = some x := by
  induction xs with
  | nil => simp [hasEqualNeighbours]
  | cons a xs ih =>
      cases xs with
      | nil =>
          simp only [hasEqualNeighbours, Bool.false_eq_true, false_iff]
          rintro ⟨i, x, -, hnext⟩
          simp at hnext
      | cons b rest =>
          rw [hasEqualNeighbours, Bool.or_eq_true, beq_iff_eq, ih]
          constructor
          · rintro (rfl | ⟨i, x, hfirst, hsecond⟩)
            · exact ⟨0, a, rfl, rfl⟩
            · exact ⟨i + 1, x, hfirst, hsecond⟩
          · rintro ⟨i, x, hfirst, hsecond⟩
            cases i with
            | zero =>
                simp only [List.getElem?_cons_zero, Option.some.injEq] at hfirst
                simp only [List.getElem?_cons_succ, List.getElem?_cons_zero,
                  Option.some.injEq] at hsecond
                exact Or.inl (hfirst.trans hsecond.symm)
            | succ i => exact Or.inr ⟨i, x, hfirst, hsecond⟩

/-! ## Runs -/

/-- From some position on, `spamRun` characters are equal. -/
def HasRun (cs : List Char) : Prop := ∃ i c, ∀ k < spamRun, cs[i + k]? = some c

theorem hasRun_replicate (d : Char) (rest : List Char) :
    HasRun (List.replicate spamRun d ++ rest) := by
  refine ⟨0, d, fun k hk => ?_⟩
  rw [Nat.zero_add, List.getElem?_append_left (by simpa using hk), List.getElem?_replicate,
    if_pos hk]

/-- A run that is broken off before its end makes no difference. -/
theorem hasRun_replicate_append {c d : Char} (hne : d ≠ c) {run : Nat} (hrun : run < spamRun)
    {rest : List Char} :
    HasRun (List.replicate run d ++ c :: rest) ↔ HasRun (c :: rest) := by
  have hskip : ∀ i, (List.replicate run d ++ c :: rest)[run + i]? = (c :: rest)[i]? := by
    intro i
    rw [List.getElem?_append_right (by simp), List.length_replicate, Nat.add_sub_cancel_left]
  constructor
  · rintro ⟨i, x, hx⟩
    rcases Nat.lt_or_ge i run with hlt | hge
    · -- The run would start before `c` and reach over it.
      have hfirst := hx 0 (by omega)
      have hbreak := hx (run - i) (by omega)
      rw [Nat.add_zero, List.getElem?_append_left (by simpa using hlt), List.getElem?_replicate,
        if_pos hlt] at hfirst
      rw [Nat.add_sub_cancel' (Nat.le_of_lt hlt)] at hbreak
      have hc := (hskip 0).symm.trans hbreak
      simp only [List.getElem?_cons_zero, Option.some.injEq] at hfirst hc
      exact absurd (hfirst.trans hc.symm) hne
    · obtain ⟨j, rfl⟩ := Nat.exists_eq_add_of_le hge
      refine ⟨j, x, fun k hk => ?_⟩
      rw [← hskip, ← Nat.add_assoc]
      exact hx k hk
  · rintro ⟨i, x, hx⟩
    refine ⟨run + i, x, fun k hk => ?_⟩
    rw [Nat.add_assoc, hskip]
    exact hx k hk

/-- Behind `run` times the character `d`, a run is found exactly if there is one in all that was
read and is still to be read. -/
theorem hasLongRun_iff {run : Nat} (hrun : run < spamRun) (d : Char) (cs : List Char) :
    hasLongRun (some d) run cs = true ↔ HasRun (List.replicate run d ++ cs) := by
  induction cs generalizing d run with
  | nil =>
      simp only [hasLongRun, Bool.false_eq_true, false_iff, List.append_nil]
      rintro ⟨i, x, hx⟩
      have hlast := hx run hrun
      rw [List.getElem?_eq_none (by simp)] at hlast
      cases hlast
  | cons c rest ih =>
      rw [hasLongRun, Bool.or_eq_true]
      by_cases hc : d = c
      · -- The run goes on: it is complete now, or one longer and still open.
        subst hc
        have hgrow : List.replicate run d ++ d :: rest = List.replicate (run + 1) d ++ rest := by
          rw [List.replicate_succ', List.append_assoc]
          rfl
        simp only [BEq.rfl, if_true, decide_eq_true_eq]
        rw [hgrow]
        by_cases hfull : spamRun ≤ run + 1
        · have hlength : run + 1 = spamRun := Nat.le_antisymm hrun hfull
          rw [hlength]
          exact iff_of_true (Or.inl (Nat.le_refl spamRun)) (hasRun_replicate d rest)
        · rw [ih (Nat.lt_of_not_le hfull)]
          exact or_iff_right hfull
      · have hstart : ¬ spamRun ≤ 1 := by decide
        have hother : (some d == some c) = false := beq_eq_false_iff_ne.mpr (by simpa using hc)
        simp only [hother, Bool.false_eq_true, if_false, decide_eq_true_eq]
        rw [ih (by decide), hasRun_replicate_append hc hrun]
        exact or_iff_right hstart

theorem hasLongRun_none_iff (cs : List Char) : hasLongRun none 0 cs = true ↔ HasRun cs := by
  cases cs with
  | nil =>
      simp only [hasLongRun, Bool.false_eq_true, false_iff]
      rintro ⟨i, x, hx⟩
      cases hx 0 (by decide)
  | cons c rest =>
      have hone : 1 < spamRun := by decide
      exact hasLongRun_iff hone c rest

/-- A name is spam exactly if one of its words stands twice in a row, or if four characters in a row
are the same but for the case of ASCII letters. -/
theorem isSpam_iff (name : String) :
    isSpam name = true ↔
      (∃ i w, (words name)[i]? = some w ∧ (words name)[i + 1]? = some w) ∨
        ∃ i c, ∀ k < 4, name.toList[i + k]?.map Char.toLower = some c := by
  have hrun : hasLongRun none 0 (name.toList.map Char.toLower) = true ↔
      ∃ i c, ∀ k < 4, name.toList[i + k]?.map Char.toLower = some c := by
    rw [hasLongRun_none_iff, HasRun]
    simp only [List.getElem?_map]
    rfl
  rw [isSpam, Bool.or_eq_true, hasEqualNeighbours_iff, hrun]

/-- The run goes on over the border between the two words, and over a change of case. -/
example : isSpam "fooOOks" = true ∧ words "fooOOks" = ["foo", "o", "oks"] := by decide +kernel

end SuiteLint.Name
