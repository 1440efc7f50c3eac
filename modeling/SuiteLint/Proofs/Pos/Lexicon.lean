import Mathlib.Data.List.MinMax
import SuiteLint.Pos.Lexicon
import SuiteLint.Proofs.KeyedList
import SuiteLint.Proofs.Sorting
import SuiteLint.Proofs.Text.Split
import SuiteLint.Proofs.Text.Utf8Exact

/-!
# What a model says

A model is read off its lines directly: each line behind the header that is neither empty nor a
comment is an entry (`content?`), the last entry of a word counts (`wordEntries`), and of the
suffixes that a token ends in the longest, at its first entry (`suffixEntries`). `lookup` puts this
together. The lexicon of the lines gives the same tags, although it keeps words in a table that
later entries overwrite and suffixes in a sorted list that is searched from the front
(`candidates_ofLines`). Loading gives that lexicon if every line is complete, and stops at the first
one that is not.

Suffixes of one length that a token ends in are the same text. So the order among suffixes of one
length never matters, and the first match of the sorted list is the first longest one of the model
(`head?_mergeSort_suffixBefore`).
-/

namespace SuiteLint.Pos

/-! ## Lines -/

/-- A line that is neither empty nor a comment. -/
def Counts (line : String) : Prop :=
  Text.trim line ≠ "" ∧ (Text.trim line).toList.head? ≠ some '#'

instance (line : String) : Decidable (Counts line) := inferInstanceAs (Decidable (_ ∧ _))

/-- What white space separates in a line. -/
def items (line : String) : List String := Text.fields (Text.trim line)

/-- A line that counts has a key and at least one tag. -/
def Complete (line : String) : Prop := Counts line → 2 ≤ (items line).length

instance (line : String) : Decidable (Complete line) := inferInstanceAs (Decidable (_ → _))

/-- The key and the tags of a line that counts. -/
def content? (line : String) : Option (String × List Tag) :=
  if Counts line then
    match items line with
    | key :: labels => some (key, labels.map Tag.ofLabel)
    | [] => none
  else none

/-- The word of a line in lower case and its tags; a key with a tilde is no word. -/
def word? (line : String) : Option (String × List Tag) :=
  (content? line).bind fun entry =>
    if (Text.stripFront? "~" entry.1).isSome then none
    else some (Text.lowerText entry.1, entry.2)

/-- The suffix of a line, which stands behind a tilde, and its tags. -/
def suffix? (line : String) : Option (String × List Tag) :=
  (content? line).bind fun entry => (Text.stripFront? "~" entry.1).map fun text => (text, entry.2)

/-- The words of a model with their tags, in the order of the lines. -/
def wordEntries (lines : List String) : List (String × List Tag) := lines.filterMap word?

/-- The suffixes of a model with their tags, in the order of the lines. -/
def suffixEntries (lines : List String) : List (String × List Tag) := lines.filterMap suffix?

/-- The bytes of a text end in those of another one, and are not the same. -/
def ProperSuffix (suffix token : String) : Prop :=
  Text.Utf8.encode suffix <:+ Text.Utf8.encode token ∧ suffix ≠ token

instance (suffix token : String) : Decidable (ProperSuffix suffix token) :=
  inferInstanceAs (Decidable (_ ∧ _))

/-- A token of ASCII digits. -/
def IsNumber (token : String) : Prop :=
  token ≠ "" ∧ ∀ c ∈ token.toList, '0' ≤ c ∧ c ≤ '9'

instance (token : String) : Decidable (IsNumber token) :=
  @instDecidableAnd _ _ inferInstance (List.decidableBAll _ token.toList)

/-- The tags of a token by the lines of a model. -/
def lookup (lines : List String) (token : String) : List Tag :=
  if IsNumber token then [.cd]
  else
    match ((wordEntries lines).filter fun entry => entry.1 = token).getLast? with
    | some entry => entry.2
    | none =>
      match ((suffixEntries lines).filter fun entry => ProperSuffix entry.1 token).argmax
          fun entry => (Text.Utf8.encode entry.1).length with
      | some entry => entry.2
      | none => [.nn]

/-! ## Reading lines -/

section

variable {line : String} {lexicon : Lexicon}

theorem skips_iff :
    (Text.trim line == "" || Text.startsWith "#" (Text.trim line)) = true ↔ ¬Counts line := by
  have hcomment : Text.startsWith "#" (Text.trim line) = true
      ↔ (Text.trim line).toList.head? = some '#' := by
    rw [Text.startsWith_iff]
    cases (Text.trim line).toList with
    | nil => simp
    | cons c cs => simp [eq_comm]
  rw [Bool.or_eq_true, beq_iff_eq, hcomment, Counts, not_and_or, not_not, not_not]

theorem read_of_not_counts (h : ¬Counts line) : ModelLine.read line = .skipped := by
  simp only [ModelLine.read, skips_iff.mpr h, if_true]

theorem not_skips (h : Counts line) :
    (Text.trim line == "" || Text.startsWith "#" (Text.trim line)) = false :=
  Bool.eq_false_iff.mpr fun hskips => skips_iff.mp hskips h

theorem read_of_single (h : Counts line) {key : String} (hitems : items line = [key]) :
    ModelLine.read line = .bare := by
  rw [items] at hitems
  simp only [ModelLine.read, not_skips h, hitems, Bool.false_eq_true, if_false]

theorem read_of_tagged (h : Counts line) {key label : String} {labels : List String}
    (hitems : items line = key :: label :: labels) :
    ModelLine.read line =
      (Text.stripFront? "~" key).elim
        (.word (Text.lowerText key) ((label :: labels).map Tag.ofLabel))
        fun text => .suffix text ((label :: labels).map Tag.ofLabel) := by
  rw [items] at hitems
  simp only [ModelLine.read, not_skips h, hitems, Bool.false_eq_true, if_false]
  cases Text.stripFront? "~" key <;> rfl

/-- A line without tags has a key. -/
theorem read_of_not_complete (h : ¬Complete line) : ModelLine.read line = .bare := by
  rw [Complete, Classical.not_imp] at h
  obtain ⟨hcounts, hshort⟩ := h
  have hne : items line ≠ [] := Text.fields_trim_ne_nil hcounts.1
  match hitems : items line with
  | [] => exact (hne hitems).elim
  | [key] => exact read_of_single hcounts hitems
  | key :: label :: labels =>
      rw [hitems] at hshort
      simp at hshort

/-- The lexicon with the entry of one more line. -/
def Lexicon.extend (lexicon : Lexicon) (line : String) : Lexicon where
  words := (word? line).elim lexicon.words fun entry =>
    KeyedList.set entry.1 entry.2 lexicon.words
  suffixes := lexicon.suffixes ++ (suffix? line).toList

theorem addLines_cons (h : Complete line) (n : Nat) (lexicon : Lexicon) (rest : List String) :
    lexicon.addLines n (line :: rest) = (lexicon.extend line).addLines (n + 1) rest := by
  by_cases hcounts : Counts line
  · have hlength := h hcounts
    match hitems : items line with
    | [] | [_] =>
        rw [hitems] at hlength
        simp at hlength
    | key :: label :: labels =>
        have hcontent : content? line = some (key, (label :: labels).map Tag.ofLabel) := by
          rw [content?, if_pos hcounts, hitems]
        rw [Lexicon.addLines, read_of_tagged hcounts hitems, Lexicon.extend, word?, suffix?,
          hcontent]
        cases hstrip : Text.stripFront? "~" key <;> simp [hstrip]
  · have hcontent : content? line = none := if_neg hcounts
    rw [Lexicon.addLines, read_of_not_counts hcounts, Lexicon.extend, word?, suffix?, hcontent]
    simp

/-- Lines that are complete are added one by one. -/
theorem addLines_append {before : List String} (h : ∀ line ∈ before, Complete line) (n : Nat)
    (lexicon : Lexicon) (rest : List String) :
    lexicon.addLines n (before ++ rest)
      = (before.foldl Lexicon.extend lexicon).addLines (n + before.length) rest := by
  induction before generalizing n lexicon with
  | nil => rfl
  | cons line before ih =>
      rw [List.forall_mem_cons] at h
      rw [List.cons_append, addLines_cons h.1, ih h.2, List.foldl_cons, List.length_cons,
        Nat.add_right_comm, Nat.add_assoc]

theorem foldl_extend (lexicon : Lexicon) (lines : List String) :
    lines.foldl Lexicon.extend lexicon =
      ⟨(wordEntries lines).foldl (fun acc entry => KeyedList.set entry.1 entry.2 acc)
        lexicon.words, lexicon.suffixes ++ suffixEntries lines⟩ := by
  induction lines generalizing lexicon with
  | nil => simp [wordEntries, suffixEntries]
  | cons line lines ih =>
      rw [List.foldl_cons, ih, Lexicon.extend, wordEntries, wordEntries, suffixEntries,
        suffixEntries, List.filterMap_cons, List.filterMap_cons]
      cases word? line <;> cases suffix? line <;> simp

end

/-! ## Searching suffixes -/

theorem isNumeral_iff {token : String} :
    Lexicon.isNumeral token = true ↔ IsNumber token := by
  rw [Lexicon.isNumeral, Bool.and_eq_true, bne_iff_ne, List.all_eq_true]
  refine and_congr_right fun _ => forall₂_congr fun c _ => ?_
  rw [Text.isAsciiDigit, Char.isDigit, Bool.and_eq_true, decide_eq_true_iff, decide_eq_true_iff]
  rfl

theorem hasSuffix_iff {token suffix : String} :
    Lexicon.hasSuffix token suffix = true ↔ ProperSuffix suffix token := by
  rw [Lexicon.hasSuffix, Bool.and_eq_true, decide_eq_true_iff, Text.endsWith_iff,
    ← Text.Utf8.encode_suffix_iff, ← Text.Utf8.length_encode, ← Text.Utf8.length_encode,
    ProperSuffix, and_comm]
  refine and_congr_right fun hends => ?_
  constructor
  · rintro hlt rfl
    exact Nat.lt_irrefl _ hlt
  · intro hne
    refine Nat.lt_of_le_of_ne hends.length_le fun hlength => hne ?_
    exact Text.Utf8.encode_inj (hends.eq_of_length hlength)

theorem suffixBefore_iff {a b : String × List Tag} :
    Lexicon.suffixBefore a b = true ↔ b.1.utf8ByteSize < a.1.utf8ByteSize
      ∨ a.1.utf8ByteSize = b.1.utf8ByteSize ∧ a.1 ≤ b.1 := by
  simp [Lexicon.suffixBefore]

theorem ranks_suffixBefore : Ranks Lexicon.suffixBefore where
  trans a b c hab hbc := by
    rw [suffixBefore_iff] at hab hbc ⊢
    rcases hab with hab | ⟨hab, htext⟩
    · left
      omega
    · rcases hbc with hbc | ⟨hbc, htext'⟩
      · left
        omega
      · exact Or.inr ⟨hab.trans hbc, String.le_trans htext htext'⟩
  total a b := by
    rw [Bool.or_eq_true, suffixBefore_iff, suffixBefore_iff]
    rcases Nat.lt_trichotomy a.1.utf8ByteSize b.1.utf8ByteSize with hlt | heq | hlt
    · exact Or.inr (Or.inl hlt)
    · exact (String.le_total a.1 b.1).imp (fun h => Or.inr ⟨heq, h⟩) fun h => Or.inr ⟨heq.symm, h⟩
    · exact Or.inl (Or.inl hlt)

/-- If suffixes of one length are the same text, the first one of the sorted list is the first
longest one of the list. -/
theorem head?_mergeSort_suffixBefore {entries : List (String × List Tag)}
    (hsame : ∀ a ∈ entries, ∀ b ∈ entries, a.1.utf8ByteSize = b.1.utf8ByteSize → a.1 = b.1) :
    (entries.mergeSort Lexicon.suffixBefore).head?
      = entries.argmax fun entry => entry.1.utf8ByteSize := by
  induction entries with
  | nil => simp
  | cons a entries ih =>
      obtain ⟨longer, others, hsort, hrest, hbefore⟩ :=
        List.mergeSort_cons ranks_suffixBefore.trans ranks_suffixBefore.total a entries
      have ih' := ih fun b hb c hc =>
        hsame b (List.mem_cons_of_mem a hb) c (List.mem_cons_of_mem a hc)
      rw [hrest] at ih'
      rw [hsort, List.argmax_cons, ← ih']
      cases longer with
      | nil =>
          -- `a` stays in front, so what it is compared with stands behind it.
          cases others with
          | nil => rfl
          | cons c others =>
              have hsorted := List.pairwise_mergeSort ranks_suffixBefore.trans
                ranks_suffixBefore.total (a :: entries)
              rw [hsort] at hsorted
              have hac := List.rel_of_pairwise_cons hsorted List.mem_cons_self
              have hnlt : ¬a.1.utf8ByteSize < c.1.utf8ByteSize := by
                rcases suffixBefore_iff.mp hac with hlt | ⟨heq, -⟩ <;> omega
              simp only [List.nil_append, List.head?_cons, if_neg hnlt]
      | cons c longer =>
          -- `a` moves behind `c`, which is then longer: texts of one length are the same.
          have hc : c ∈ entries.mergeSort Lexicon.suffixBefore := by
            rw [hrest]
            exact List.mem_cons_self
          rw [List.mem_mergeSort] at hc
          have hnot : ¬Lexicon.suffixBefore a c = true := by
            simpa using hbefore c List.mem_cons_self
          have hlt : a.1.utf8ByteSize < c.1.utf8ByteSize := by
            rw [suffixBefore_iff, not_or, not_and] at hnot
            refine Nat.lt_of_le_of_ne (Nat.not_lt.mp hnot.1) fun heq => hnot.2 heq ?_
            exact hsame a List.mem_cons_self c (List.mem_cons_of_mem a hc) heq ▸ String.le_refl a.1
          simp only [List.cons_append, List.head?_cons, if_pos hlt]

/-- Of two suffixes of one token that have the same length, there is only one. -/
theorem eq_of_properSuffix {a b token : String} (ha : ProperSuffix a token)
    (hb : ProperSuffix b token) (hsize : a.utf8ByteSize = b.utf8ByteSize) : a = b := by
  rw [← Text.Utf8.length_encode, ← Text.Utf8.length_encode] at hsize
  have hsuffix := List.suffix_of_suffix_length_le ha.1 hb.1 hsize.le
  exact Text.Utf8.encode_inj (hsuffix.eq_of_length hsize)

/-- The first match in the sorted list is the first longest match of the model. -/
theorem find?_hasSuffix (entries : List (String × List Tag)) (token : String) :
    ((entries.mergeSort Lexicon.suffixBefore).find? fun entry => Lexicon.hasSuffix token entry.1)
      = (entries.filter fun entry => ProperSuffix entry.1 token).argmax
          fun entry => (Text.Utf8.encode entry.1).length := by
  have hfilter : (entries.filter fun entry => Lexicon.hasSuffix token entry.1)
      = entries.filter fun entry => ProperSuffix entry.1 token := by
    refine List.filter_congr fun entry _ => ?_
    rw [Bool.eq_iff_iff, hasSuffix_iff, decide_eq_true_iff]
  have hsame : ∀ a ∈ entries.filter fun entry => ProperSuffix entry.1 token,
      ∀ b ∈ entries.filter fun entry => ProperSuffix entry.1 token,
        a.1.utf8ByteSize = b.1.utf8ByteSize → a.1 = b.1 := by
    intro a ha b hb
    rw [List.mem_filter, decide_eq_true_iff] at ha hb
    exact eq_of_properSuffix ha.2 hb.2
  rw [← List.head?_filter, ranks_suffixBefore.filter_mergeSort, hfilter,
    head?_mergeSort_suffixBefore hsame]
  simp only [Text.Utf8.length_encode]

/-! ## Models -/

/-- The lexicon of lines. -/
def Lexicon.ofLines (lines : List String) : Lexicon :=
  (lines.foldl Lexicon.extend Lexicon.empty).sortSuffixes

theorem candidates_ofLines (lines : List String) (token : String) :
    (Lexicon.ofLines lines).candidates token = lookup lines token := by
  have hwords : KeyedList.get? token (Lexicon.ofLines lines).words
      = (((wordEntries lines).filter fun entry => entry.1 = token).getLast?).map Prod.snd := by
    rw [Lexicon.ofLines, foldl_extend, List.getLast?_filter]
    exact KeyedList.get?_ofList token (wordEntries lines)
  have hsuffixes : (Lexicon.ofLines lines).suffixes
      = (suffixEntries lines).mergeSort Lexicon.suffixBefore := by
    rw [Lexicon.ofLines, foldl_extend]
    rfl
  rw [Lexicon.candidates, lookup, hwords, hsuffixes, find?_hasSuffix]
  refine if_congr isNumeral_iff rfl ?_
  cases ((wordEntries lines).filter fun entry => entry.1 = token).getLast? <;> rfl

/-- The bytes are UTF-8 text that starts with the header, and `rest` are the lines behind it. -/
def HasLines (bytes : List UInt8) (rest : List String) : Prop :=
  ∃ text header, bytes = Text.Utf8.encode text ∧ Text.lines text = header :: rest
    ∧ Text.trim header = modelHeader

section

variable {bytes : List UInt8} {lexicon : Lexicon} {rest : List String}

theorem ofBytes_of_hasLines (h : HasLines bytes rest) :
    Lexicon.ofBytes bytes = (Lexicon.addLines 2 Lexicon.empty rest).map Lexicon.sortSuffixes := by
  obtain ⟨text, header, hbytes, hlines, hheader⟩ := h
  simp only [Lexicon.ofBytes, Text.Utf8.decode_eq_ok_iff.mpr hbytes, Lexicon.ofText, hlines,
    hheader, beq_self_eq_true, if_true]

theorem exists_hasLines_of_ok (h : Lexicon.ofBytes bytes = .ok lexicon) :
    ∃ rest, HasLines bytes rest := by
  rw [Lexicon.ofBytes] at h
  cases htext : Text.Utf8.decode bytes with
  | error fault => simp [htext] at h
  | ok text =>
      simp only [htext, Lexicon.ofText] at h
      cases hlines : Text.lines text with
      | nil => simp [hlines] at h
      | cons header rest =>
          by_cases hheader : Text.trim header = modelHeader
          · exact ⟨rest, text, header, Text.Utf8.decode_eq_ok_iff.mp htext, hlines, hheader⟩
          · simp [hlines, hheader] at h

theorem ofBytes_of_complete (h : HasLines bytes rest) (hcomplete : ∀ line ∈ rest, Complete line) :
    Lexicon.ofBytes bytes = .ok (Lexicon.ofLines rest) := by
  have hadd := addLines_append hcomplete 2 Lexicon.empty []
  rw [List.append_nil] at hadd
  rw [ofBytes_of_hasLines h, hadd]
  rfl

theorem ofBytes_of_not_complete {before after : List String} {line : String}
    (h : HasLines bytes (before ++ line :: after)) (hbefore : ∀ l ∈ before, Complete l)
    (hline : ¬Complete line) :
    Lexicon.ofBytes bytes = .error (.noTags (before.length + 2)) := by
  rw [ofBytes_of_hasLines h, addLines_append hbefore, Nat.add_comm 2]
  simp only [Lexicon.addLines, read_of_not_complete hline]
  rfl

/-- Lines are complete up to the first one that is not. -/
theorem complete_or_first (lines : List String) :
    (∀ line ∈ lines, Complete line) ∨ ∃ before line after, lines = before ++ line :: after
      ∧ (∀ l ∈ before, Complete l) ∧ ¬Complete line := by
  induction lines with
  | nil => exact Or.inl fun _ hmem => absurd hmem List.not_mem_nil
  | cons first lines ih =>
      by_cases hfirst : Complete first
      · rcases ih with hall | ⟨before, line, after, rfl, hbefore, hline⟩
        · exact Or.inl (List.forall_mem_cons.mpr ⟨hfirst, hall⟩)
        · exact Or.inr ⟨first :: before, line, after, rfl,
            List.forall_mem_cons.mpr ⟨hfirst, hbefore⟩, hline⟩
      · exact Or.inr ⟨[], first, lines, rfl, fun _ hmem => absurd hmem List.not_mem_nil, hfirst⟩

theorem complete_of_ok (h : Lexicon.ofBytes bytes = .ok lexicon) (hlines : HasLines bytes rest) :
    ∀ line ∈ rest, Complete line := by
  rcases complete_or_first rest with hall | ⟨before, line, after, rfl, hbefore, hline⟩
  · exact hall
  · rw [ofBytes_of_not_complete hlines hbefore hline] at h
    cases h

end

/-- Reading a model and looking up a token is reading off the lines. A model is read if and only if
it is UTF-8, starts with the header, and has a key and a tag on each line behind the header that is
neither empty nor a comment; the first line without a tag is named by its number; and the tags of a
token are those that the lines give it. -/
theorem ofBytes_by_lines (bytes : List UInt8) :
    ((∃ lexicon, Lexicon.ofBytes bytes = .ok lexicon)
        ↔ ∃ rest, HasLines bytes rest ∧ ∀ line ∈ rest, Complete line)
      ∧ (∀ before line after, HasLines bytes (before ++ line :: after) →
          (∀ l ∈ before, Complete l) → ¬Complete line →
            Lexicon.ofBytes bytes = .error (.noTags (before.length + 2)))
      ∧ ∀ lexicon rest, Lexicon.ofBytes bytes = .ok lexicon → HasLines bytes rest →
          ∀ token, lexicon.candidates token = lookup rest token := by
  refine ⟨⟨?_, ?_⟩, fun _ _ _ => ofBytes_of_not_complete, ?_⟩
  · rintro ⟨lexicon, hok⟩
    obtain ⟨rest, hlines⟩ := exists_hasLines_of_ok hok
    exact ⟨rest, hlines, complete_of_ok hok hlines⟩
  · rintro ⟨rest, hlines, hcomplete⟩
    exact ⟨Lexicon.ofLines rest, ofBytes_of_complete hlines hcomplete⟩
  · intro lexicon rest hok hlines token
    have hread := ofBytes_of_complete hlines (complete_of_ok hok hlines)
    obtain rfl : lexicon = Lexicon.ofLines rest := Except.ok.inj (hok.symm.trans hread)
    exact candidates_ofLines rest token

/-- The lines of a model in which a word and a suffix come twice. -/
def verbLines : List String :=
  ["# verbs", "Run NN", "run VB NN", "", "~ng JJ", "~ing VBG", "~ing NN"]

/-- The bytes of the model with these lines. -/
def modelOf (lines : List String) : List UInt8 :=
  Text.Utf8.encode (String.join ((modelHeader :: lines).map (· ++ "\n")))

theorem ofBytes_by_lines_verbs :
    (∃ lexicon, Lexicon.ofBytes (modelOf verbLines) = .ok lexicon
        ∧ lexicon.candidates "run" = [.vb, .nn] ∧ lexicon.candidates "sing" = [.vbg]
        ∧ lexicon.candidates "ing" = [.jj])
      ∧ Lexicon.ofBytes (modelOf (verbLines ++ ["walk", "talk VB"])) = .error (.noTags 9) := by
  have hverbs : HasLines (modelOf verbLines) verbLines :=
    ⟨_, modelHeader, rfl, by decide +kernel, by decide +kernel⟩
  have hwalk : HasLines (modelOf (verbLines ++ ["walk", "talk VB"]))
      (verbLines ++ ["walk", "talk VB"]) :=
    ⟨_, modelHeader, rfl, by decide +kernel, by decide +kernel⟩
  have hcomplete : ∀ line ∈ verbLines, Complete line := by decide +kernel
  obtain ⟨hread, -, htags⟩ := ofBytes_by_lines (modelOf verbLines)
  obtain ⟨lexicon, hok⟩ := hread.mpr ⟨verbLines, hverbs, hcomplete⟩
  have hlookup := htags lexicon verbLines hok hverbs
  refine ⟨⟨lexicon, hok, ?_, ?_, ?_⟩, ?_⟩
  · rw [hlookup]
    decide +kernel
  · rw [hlookup]
    decide +kernel
  · rw [hlookup]
    decide +kernel
  · exact (ofBytes_by_lines _).2.1 verbLines "walk" ["talk VB"] hwalk hcomplete
      (by decide +kernel)

end SuiteLint.Pos
