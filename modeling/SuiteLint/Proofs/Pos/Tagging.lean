import SuiteLint.Proofs.Pos.Lexicon
import SuiteLint.Proofs.Pos.PresentSimple

/-!
# How tags are chosen

Each tag is chosen among the possible tags of its token with regard to the tag before it. What may
come out of one choice is said by `Justified`: a possible tag, or the plural form of a verb whose
base form is possible, behind a plural subject. From one choice (`justified_disambiguate`) it
follows for every position of a phrase (`justified_tagFrom`).

A choice among no tags would be `unknown` and would reach the choices behind it. A model that can be
read gives every token at least one tag (`candidates_ne_nil`), and all its tags are known if its
labels are (`unknown_notMem_candidates`).
-/

namespace SuiteLint.Pos

/-! ## One choice -/

/-- A subject behind which a verb takes its plural form. -/
def IsPluralSubject (t : Tag) : Prop := t = .prp ∨ t = .nns ∨ t = .nnps

/-- What may be chosen for a token with the possible tags `tags` behind the tag `prev`. -/
inductive Justified (tags : List Tag) (prev : Option Tag) : Tag → Prop
  | candidate {t : Tag} (hmem : t ∈ tags) : Justified tags prev t
  | pluralVerb {p : Tag} (hprev : prev = some p) (hp : IsPluralSubject p)
      (hmany : 2 ≤ tags.length) (hbase : .vb ∈ tags) : Justified tags prev .vbp

section Choice

variable {tags : List Tag} {prev : Option Tag} {first p : Tag}

theorem justified_ite_vbp (hfirst : first ∈ tags) (hmany : 2 ≤ tags.length)
    (hp : IsPluralSubject p) :
    Justified tags (some p)
      (if first != .nns && (tags.contains .vbp || tags.contains .vb) then .vbp else first) := by
  split
  · rename_i hverb
    rw [Bool.and_eq_true, Bool.or_eq_true, List.contains_iff_mem, List.contains_iff_mem] at hverb
    rcases hverb.2 with hplural | hbase
    · exact .candidate hplural
    · exact .pluralVerb rfl hp hmany hbase
  · exact .candidate hfirst

theorem justified_ite_contains (hfirst : first ∈ tags) (t : Tag) :
    Justified tags prev (if tags.contains t then t else first) := by
  split
  · rename_i ht
    exact .candidate (List.contains_iff_mem.mp ht)
  · exact .candidate hfirst

theorem justified_find? (hfirst : first ∈ tags) (wanted : Tag → Bool) :
    Justified tags prev ((tags.find? wanted).getD first) := by
  cases hfind : tags.find? wanted with
  | none => exact .candidate hfirst
  | some t => exact .candidate (List.mem_of_find?_eq_some hfind)

/-- One case for each group of tags that is treated alike. -/
theorem justified_chooseAfter (hfirst : first ∈ tags) (hmany : 2 ≤ tags.length) (p : Tag) :
    Justified tags (some p) (Lexicon.chooseAfter p first tags) := by
  cases p with
  | prp => exact justified_ite_vbp hfirst hmany (Or.inl rfl)
  | nns => exact justified_ite_vbp hfirst hmany (Or.inr (Or.inl rfl))
  | nnps => exact justified_ite_vbp hfirst hmany (Or.inr (Or.inr rfl))
  | nn | nnp => exact justified_ite_contains hfirst .vbz
  | md | toWord => exact justified_ite_contains hfirst .vb
  | dt | jj | prpPossessive | inWord | vb | vbp | vbz | vbd | vbg =>
      exact justified_find? hfirst _
  | vbn | jjr | jjs | rb | rbr | rp | cc | cd | ex | uh | wdt | wp | wrb | pos | vv | vhp
  | unknown => exact .candidate hfirst

theorem justified_disambiguate (h : tags ≠ []) (prev : Option Tag) :
    Justified tags prev (Lexicon.disambiguate tags prev) := by
  match tags, prev with
  | [], _ => exact (h rfl).elim
  | [first], _ => exact .candidate List.mem_cons_self
  | first :: _ :: _, none => exact .candidate List.mem_cons_self
  | first :: second :: rest, some p =>
      have hmany : 2 ≤ (first :: second :: rest).length := Nat.le_add_left 2 rest.length
      exact justified_chooseAfter List.mem_cons_self hmany p

end Choice

/-! ## All choices of a phrase -/

/-- The tag before a position: `prev` before the first one, then the tag of the position before. -/
def tagBefore? (prev : Option Tag) (tags : List Tag) : Nat → Option Tag
  | 0 => prev
  | i + 1 => tags[i]?

theorem tagBefore?_cons_succ (prev : Option Tag) (t : Tag) (tags : List Tag) (i : Nat) :
    tagBefore? prev (t :: tags) (i + 1) = tagBefore? (some t) tags i := by
  cases i <;> rfl

section Phrase

variable {lexicon : Lexicon} {prev : Option Tag} {tokens : List String}

theorem length_tagFrom (lexicon : Lexicon) (prev : Option Tag) (tokens : List String) :
    (lexicon.tagFrom prev tokens).length = tokens.length := by
  induction tokens generalizing prev with
  | nil => rfl
  | cons token tokens ih => rw [Lexicon.tagFrom, List.length_cons, List.length_cons, ih]

theorem justified_tagFrom (h : ∀ token, lexicon.candidates token ≠ []) {i : Nat} {token : String}
    (htoken : tokens[i]? = some token) :
    ∃ t, (lexicon.tagFrom prev tokens)[i]? = some t
      ∧ Justified (lexicon.candidates token)
          (tagBefore? prev (lexicon.tagFrom prev tokens) i) t := by
  induction tokens generalizing prev i with
  | nil => cases htoken
  | cons first tokens ih =>
      rw [Lexicon.tagFrom]
      cases i with
      | zero =>
          obtain rfl : first = token := Option.some.inj htoken
          exact ⟨_, rfl, justified_disambiguate (h first) prev⟩
      | succ i =>
          -- The chosen tag is the one before the rest of the phrase.
          rw [tagBefore?_cons_succ]
          exact ih htoken

theorem justified_of_mem (h : ∀ token, lexicon.candidates token ≠ []) {t : Tag}
    (ht : t ∈ lexicon.tagFrom prev tokens) :
    ∃ token before, Justified (lexicon.candidates token) before t := by
  obtain ⟨i, hi⟩ := List.mem_iff_getElem?.mp ht
  have hlt : i < tokens.length := by
    rw [← length_tagFrom lexicon prev]
    exact (List.getElem?_eq_some_iff.mp hi).1
  obtain ⟨t', ht', hjustified⟩ := justified_tagFrom h (List.getElem?_eq_getElem hlt)
  obtain rfl : t = t' := Option.some.inj (hi.symm.trans ht')
  exact ⟨_, _, hjustified⟩

theorem take_tag_append (lexicon : Lexicon) (tokens more : List String) :
    (lexicon.tag (tokens ++ more)).take tokens.length = lexicon.tag tokens := by
  have hfront := List.prefix_iff_eq_take.mp (tag_prefix_append lexicon tokens more)
  rw [hfront]
  congr 1
  exact (length_tagFrom lexicon none tokens).symm

end Phrase

/-! ## The tags of a model -/

/-- The label of a tag of the set. -/
def KnownLabel (label : String) : Prop := ∃ t : Tag, t ≠ .unknown ∧ t.label = label

theorem ofLabel_label (t : Tag) : Tag.ofLabel t.label = t := by
  cases t <;> decide

theorem KnownLabel.ofLabel_ne {label : String} (h : KnownLabel label) :
    Tag.ofLabel label ≠ .unknown := by
  obtain ⟨t, ht, rfl⟩ := h
  rwa [ofLabel_label]

section Lines

variable {lines : List String} {line : String} {entry : String × List Tag}

/-- The tags that the labels of a line give. -/
def lineTags (line : String) : List Tag := (items line).tail.map Tag.ofLabel

theorem content?_eq_some (h : content? line = some entry) :
    Counts line ∧ entry.2 = lineTags line := by
  rw [content?] at h
  split at h
  · rename_i hcounts
    refine ⟨hcounts, ?_⟩
    split at h
    · rename_i key labels hitems
      obtain rfl := Option.some.inj h
      rw [lineTags, hitems, List.tail_cons]
    · cases h
  · cases h

theorem tags_of_word? (h : word? line = some entry) : Counts line ∧ entry.2 = lineTags line := by
  obtain ⟨full, hcontent, hkey⟩ := Option.bind_eq_some_iff.mp h
  obtain ⟨hcounts, htags⟩ := content?_eq_some hcontent
  split at hkey
  · cases hkey
  · obtain rfl := Option.some.inj hkey
    exact ⟨hcounts, htags⟩

theorem tags_of_suffix? (h : suffix? line = some entry) :
    Counts line ∧ entry.2 = lineTags line := by
  obtain ⟨full, hcontent, hkey⟩ := Option.bind_eq_some_iff.mp h
  obtain ⟨hcounts, htags⟩ := content?_eq_some hcontent
  obtain ⟨text, -, rfl⟩ := Option.map_eq_some_iff.mp hkey
  exact ⟨hcounts, htags⟩

/-- The tags of a token are those of a number, those of a noun, or those of a line. -/
theorem lookup_cases (lines : List String) (token : String) :
    lookup lines token = [.cd] ∨ lookup lines token = [.nn]
      ∨ ∃ line ∈ lines, Counts line ∧ lookup lines token = lineTags line := by
  rw [lookup]
  split
  · exact Or.inl rfl
  · split
    · rename_i entry hentry
      have hmem := (List.mem_filter.mp (List.mem_of_getLast? hentry)).1
      obtain ⟨line, hline, hword⟩ := List.mem_filterMap.mp hmem
      exact Or.inr (Or.inr ⟨line, hline, tags_of_word? hword⟩)
    · split
      · rename_i entry hentry
        have hmem := (List.mem_filter.mp (List.argmax_mem hentry)).1
        obtain ⟨line, hline, hsuffix⟩ := List.mem_filterMap.mp hmem
        exact Or.inr (Or.inr ⟨line, hline, tags_of_suffix? hsuffix⟩)
      · exact Or.inr (Or.inl rfl)

theorem lookup_ne_nil (h : ∀ line ∈ lines, Complete line) (token : String) :
    lookup lines token ≠ [] := by
  rcases lookup_cases lines token with hcd | hnn | ⟨line, hline, hcounts, htags⟩
  · rw [hcd]
    exact List.cons_ne_nil _ _
  · rw [hnn]
    exact List.cons_ne_nil _ _
  · have hlength : (lineTags line).length = (items line).length - 1 := by
      rw [lineTags, List.length_map, List.length_tail]
    have hcomplete := h line hline hcounts
    rw [htags]
    exact List.ne_nil_of_length_pos (by omega)

/-- A line with labels of tags of the set only. -/
def Labelled (line : String) : Prop :=
  Counts line → ∀ label ∈ (items line).tail, KnownLabel label

theorem unknown_notMem_lookup (h : ∀ line ∈ lines, Labelled line) (token : String) :
    .unknown ∉ lookup lines token := by
  rcases lookup_cases lines token with hcd | hnn | ⟨line, hline, hcounts, htags⟩
  · rw [hcd]
    decide
  · rw [hnn]
    decide
  · rw [htags]
    intro hunknown
    obtain ⟨label, hlabel, hof⟩ := List.mem_map.mp hunknown
    exact (h line hline hcounts label hlabel).ofLabel_ne hof

end Lines

section Model

variable {bytes : List UInt8} {lexicon : Lexicon} {rest : List String}

theorem eq_ofLines_of_ok (h : Lexicon.ofBytes bytes = .ok lexicon) (hlines : HasLines bytes rest) :
    lexicon = Lexicon.ofLines rest :=
  Except.ok.inj (h.symm.trans (ofBytes_of_complete hlines (complete_of_ok h hlines)))

theorem candidates_ne_nil (h : Lexicon.ofBytes bytes = .ok lexicon) (token : String) :
    lexicon.candidates token ≠ [] := by
  obtain ⟨rest, hlines⟩ := exists_hasLines_of_ok h
  rw [eq_ofLines_of_ok h hlines, candidates_ofLines]
  exact lookup_ne_nil (complete_of_ok h hlines) token

theorem unknown_notMem_candidates (h : Lexicon.ofBytes bytes = .ok lexicon)
    (hlines : HasLines bytes rest) (hknown : ∀ line ∈ rest, Labelled line) (token : String) :
    .unknown ∉ lexicon.candidates token := by
  rw [eq_ofLines_of_ok h hlines, candidates_ofLines]
  exact unknown_notMem_lookup hknown token

end Model

/-- **Every tag is justified by its token and the tag before it.** With a model that can be read,
each token gets one tag. It is one of the token's possible tags, or the plural form of a verb whose
base form is possible, behind a plural subject. What follows in a phrase changes no tag, and if the
model has known labels only, no tag is unknown. -/
theorem tags_justified {bytes : List UInt8} {lexicon : Lexicon}
    (h : Lexicon.ofBytes bytes = .ok lexicon) :
    (∀ tokens, (lexicon.tag tokens).length = tokens.length)
    ∧ (∀ tokens i token, tokens[i]? = some token →
        ∃ t, (lexicon.tag tokens)[i]? = some t
          ∧ Justified (lexicon.candidates token) (tagBefore? none (lexicon.tag tokens) i) t)
    ∧ (∀ xs ys, (lexicon.tag (xs ++ ys)).take xs.length = lexicon.tag xs)
    ∧ ∀ rest, HasLines bytes rest → (∀ line ∈ rest, Labelled line) →
        ∀ tokens, .unknown ∉ lexicon.tag tokens := by
  refine ⟨length_tagFrom lexicon none, ?_, take_tag_append lexicon, ?_⟩
  · intro tokens i token htoken
    exact justified_tagFrom (candidates_ne_nil h) htoken
  · intro rest hlines hknown tokens hunknown
    obtain ⟨token, before, hjustified⟩ := justified_of_mem (candidates_ne_nil h) hunknown
    cases hjustified with
    | candidate hmem => exact unknown_notMem_candidates h hlines hknown token hmem

/-- The lines of a model with a plural subject and a verb that may be a noun. -/
def plainLines : List String := ["# subjects", "they PRP", "run NN VB", "~ly RB"]

theorem labelled_plainLines : ∀ line ∈ plainLines, Labelled line := by
  have hlabels : ∀ line ∈ plainLines, Counts line → ∀ label ∈ (items line).tail,
      label ∈ ["PRP", "NN", "VB", "RB"] := by decide +kernel
  have hknown : ∀ label ∈ ["PRP", "NN", "VB", "RB"],
      ∃ t ∈ [Tag.prp, .nn, .vb, .rb], t ≠ .unknown ∧ t.label = label := by decide
  intro line hline hcounts label hlabel
  obtain ⟨t, -, ht⟩ := hknown label (hlabels line hline hcounts label hlabel)
  exact ⟨t, ht⟩

/-- Behind a plural subject the verb takes a form that is not among its tags. -/
theorem tags_justified_plainLines :
    ∃ lexicon, Lexicon.ofBytes (modelOf plainLines) = .ok lexicon
      ∧ lexicon.tag ["they", "run"] = [.prp, .vbp]
      ∧ (lexicon.tag ["they", "run"]).length = 2
      ∧ (∃ t, (lexicon.tag ["they", "run"])[1]? = some t
        ∧ Justified [.nn, .vb] (tagBefore? none (lexicon.tag ["they", "run"]) 1) t)
      ∧ (lexicon.tag (["they", "run"] ++ ["slowly"])).take 2 = lexicon.tag ["they", "run"]
      ∧ .unknown ∉ lexicon.tag ["they", "run", "slowly"] := by
  have hlines : HasLines (modelOf plainLines) plainLines :=
    ⟨_, modelHeader, rfl, by decide +kernel, by decide +kernel⟩
  have hok := ofBytes_of_complete hlines (by decide +kernel)
  have hthey : (Lexicon.ofLines plainLines).candidates "they" = [.prp] := by
    rw [candidates_ofLines]
    decide +kernel
  have hrun : (Lexicon.ofLines plainLines).candidates "run" = [.nn, .vb] := by
    rw [candidates_ofLines]
    decide +kernel
  have htag : (Lexicon.ofLines plainLines).tag ["they", "run"] = [.prp, .vbp] := by
    simp only [Lexicon.tag, Lexicon.tagFrom, hthey, hrun]
    decide
  obtain ⟨hlength, hjustified, htake, hknown⟩ := tags_justified hok
  refine ⟨_, hok, htag, hlength _, ?_, htake ["they", "run"] ["slowly"],
    hknown plainLines hlines labelled_plainLines _⟩
  rw [← hrun]
  exact hjustified _ 1 "run" rfl

end SuiteLint.Pos
