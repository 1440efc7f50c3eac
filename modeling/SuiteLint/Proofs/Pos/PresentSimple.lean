import SuiteLint.Pos.PresentSimple
import SuiteLint.Proofs.Name.Words

/-!
# Names that go on

A name that reads as present simple still does when a capitalised text is put behind it
(`isPresentSimple_append`). The verb in front decides by the characters before the first capital,
which stay. The tags of the words are chosen from left to right, each with regard to the one before
it, so the tags of the longer name begin with those of the shorter one (`tag_prefix_append`); and
the pattern of a plural subject, once it is found, looks at nothing that may follow
(`pluralSubject_append`).
-/

namespace SuiteLint.Pos

theorem tagFrom_prefix_append (lexicon : Lexicon) (prev : Option Tag) (tokens more : List String) :
    lexicon.tagFrom prev tokens <+: lexicon.tagFrom prev (tokens ++ more) := by
  induction tokens generalizing prev with
  | nil => exact List.nil_prefix
  | cons token tokens ih =>
      rw [List.cons_append, Lexicon.tagFrom, Lexicon.tagFrom]
      exact (List.prefix_cons_inj _).mpr (ih _)

theorem tag_prefix_append (lexicon : Lexicon) (tokens more : List String) :
    lexicon.tag tokens <+: lexicon.tag (tokens ++ more) :=
  tagFrom_prefix_append lexicon none tokens more

theorem pluralSubject_append {tags : List Tag} (h : pluralSubject tags = true) (more : List Tag) :
    pluralSubject (tags ++ more) = true := by
  unfold pluralSubject at h
  split at h
  · rename_i first second third rest hkept
    rw [Bool.and_eq_true] at h
    have hlonger : (tags ++ more).filter isSubjectOrVerb =
        first :: second :: third :: (rest ++ more.filter isSubjectOrVerb) := by
      rw [List.filter_append, hkept]
      rfl
    have hverb : (first :: second :: third :: (rest ++ more.filter isSubjectOrVerb)).any
        (fun t => t.isVerb || t == .nns) = true := by
      obtain ⟨t, ht, hverb⟩ := List.any_eq_true.mp h.1
      exact List.any_eq_true.mpr ⟨t, List.mem_append_left _ ht, hverb⟩
    simp only [pluralSubject, hlonger]
    rw [hverb, h.2]
    rfl
  · cases h

/-- **A capitalised text behind a name is cut on its own, and keeps the name in the present
simple.** -/
theorem isPresentSimple_append (lexicon : Lexicon) (n s : String) (hs : Name.Capitalised s) :
    Name.words (n ++ s) = Name.words n ++ Name.words s
    ∧ (lexicon.isPresentSimple n = true → lexicon.isPresentSimple (n ++ s) = true) := by
  refine ⟨Name.words_append n hs, fun h => ?_⟩
  rw [Lexicon.isPresentSimple, Bool.or_eq_true] at h ⊢
  rcases h with htense | hplural
  · exact Or.inl ((Name.isPresentTense_append n hs).trans htense)
  · obtain ⟨more, hmore⟩ := tag_prefix_append lexicon (phrase n) (Name.words s)
    refine Or.inr ?_
    rw [phrase, Name.words_append n hs, ← List.cons_append, ← phrase, ← hmore]
    exact pluralSubject_append hplural more

/-- An acronym and a number stand before the seam. -/
theorem isPresentSimple_append_acronym :
    Name.Capitalised "FileTest"
    ∧ Name.words ("readsXML2" ++ "FileTest") = Name.words "readsXML2" ++ Name.words "FileTest"
    ∧ Lexicon.empty.isPresentSimple ("readsXML2" ++ "FileTest") = true := by
  have hs : Name.Capitalised "FileTest" :=
    ⟨'F', 'i', ['l', 'e', 'T', 'e', 's', 't'], by decide, by decide, by decide⟩
  obtain ⟨hwords, hkeeps⟩ := isPresentSimple_append Lexicon.empty "readsXML2" "FileTest" hs
  have htense : Name.isPresentTense "readsXML2" = true := by decide
  exact ⟨hs, hwords, hkeeps (by rw [Lexicon.isPresentSimple, htense]; rfl)⟩

end SuiteLint.Pos
