import Mathlib
import SuiteLint.Proofs.Name.Words

/-!
# Joining words to a name

A phrase of plain words, made of small letters and digits, can be written as a name in two ways:
with a gap before each further word (`separated`), or with a capital at the front of each further
word (`camelCase`). Cutting the name gives the phrase back either way (`words_of_joined`).

What decides at a seam is how cutting goes on behind the word that stands there. If it ends the word
at once, whatever character the word ends in, then the word in front is cut out as it is
(`rawWords_word_append`). A gap does that, and so do a capital and a small letter.
-/

namespace SuiteLint.Name

open Text

/-! ## Phrases and their spellings -/

/-- A small letter or a digit of the ASCII alphabet. -/
def IsSmall (c : Char) : Prop := c.isLower = true ∨ c.isDigit = true

instance (c : Char) : Decidable (IsSmall c) := inferInstanceAs (Decidable (_ ∨ _))

/-- A word of small letters and digits. -/
structure IsPlain (w : String) : Prop where
  ne_empty : w ≠ ""
  small : ∀ c ∈ w.toList, IsSmall c

instance (w : String) : Decidable (IsPlain w) :=
  letI : Decidable (∀ c ∈ w.toList, IsSmall c) := List.decidableBAll _ _
  decidable_of_iff (w ≠ "" ∧ ∀ c ∈ w.toList, IsSmall c)
    ⟨fun h => ⟨h.1, h.2⟩, fun h => ⟨h.ne_empty, h.small⟩⟩

/-- What stands between two words: at least one character, and neither letters nor numbers. -/
structure IsGap (s : String) : Prop where
  ne_empty : s ≠ ""
  other : ∀ c ∈ s.toList, isAlphanumeric c = false

instance (s : String) : Decidable (IsGap s) :=
  letI : Decidable (∀ c ∈ s.toList, isAlphanumeric c = false) := List.decidableBAll _ _
  decidable_of_iff (s ≠ "" ∧ ∀ c ∈ s.toList, isAlphanumeric c = false)
    ⟨fun h => ⟨h.1, h.2⟩, fun h => ⟨h.ne_empty, h.other⟩⟩

/-- A word whose first two characters are small letters. -/
def StartsWithLetters (w : String) : Prop :=
  ∃ a b rest, w.toList = a :: b :: rest ∧ a.isLower = true ∧ b.isLower = true

/-- A word with its first letter in upper case. -/
def capitalised (w : String) : String :=
  match w.toList with
  | [] => ""
  | c :: rest => String.ofList (c.toUpper :: rest)

/-- The words of a phrase with gaps between them. -/
def separated (gaps : List String) : List String → String
  | [] => ""
  | first :: rest => first ++ String.join (List.zipWith (· ++ ·) gaps rest)

/-- The words of a phrase, the first one as it is and each further one capitalised. -/
def camelCase : List String → String
  | [] => ""
  | first :: rest => first ++ String.join (rest.map capitalised)

/-! ## Small characters -/

namespace IsSmall

variable {c : Char}

theorem isAscii (h : IsSmall c) : isAscii c = true := by
  rw [IsSmall, isLower_iff, isDigit_iff] at h
  exact decide_eq_true (by omega)

theorem not_isUpper (h : IsSmall c) : c.isUpper = false := by
  rw [IsSmall, isLower_iff, isDigit_iff] at h
  rw [Bool.eq_false_iff, ne_eq, isUpper_iff]
  omega

theorem not_isUppercase (h : IsSmall c) : isUppercase c = false := by
  rw [isUppercase, if_pos h.isAscii, h.not_isUpper]

theorem isAlphanumeric (h : IsSmall c) : isAlphanumeric c = true := by
  rw [Text.isAlphanumeric, isAlphabetic, isNumeric, if_pos h.isAscii, if_pos h.isAscii,
    Char.isAlpha, Bool.or_eq_true, Bool.or_eq_true]
  exact h.imp_left Or.inr

theorem lower (h : IsSmall c) : lower c = [c] := by
  rw [Text.lower, if_pos h.isAscii, Char.toLower_eq_of_not_isUpper (by simp [h.not_isUpper])]

end IsSmall

theorem lower_toUpper {c : Char} (h : c.isLower = true) : lower c.toUpper = [c] := by
  have hupper : c.toUpper.isUpper = true := by simp [Char.isAlpha, h]
  have hsmall : IsSmall c := Or.inl h
  rw [Text.lower, if_pos (isAscii_of_isUpper hupper), Char.toLower_toUpper_eq_toLower,
    Char.toLower_eq_of_not_isUpper (by simp [hsmall.not_isUpper])]

theorem flatMap_lower {w : List Char} (h : ∀ c ∈ w, IsSmall c) : w.flatMap lower = w := by
  induction w with
  | nil => rfl
  | cons c w ih =>
      rw [List.forall_mem_cons] at h
      rw [List.flatMap_cons, h.1.lower, ih h.2, List.singleton_append]

/-! ## One word at the front -/

section Front

variable {c : Char} {w tail : List Char} {pieces : List (List Char)}

/-- Small characters go on with the word under way, up to where the text behind them ends it. -/
theorem cut_small_append (hw : ∀ d ∈ w, IsSmall d)
    (htail : ∀ p, cut (some p) tail = [] :: pieces) (p : Char) :
    cut (some p) (w ++ tail) = w :: pieces := by
  induction w generalizing p with
  | nil => exact htail p
  | cons d w ih =>
      rw [List.forall_mem_cons] at hw
      have hgoes : startsWord p d (w ++ tail).head? = false := by
        rw [startsWord, hw.1.not_isUppercase, Bool.false_and]
      rw [List.cons_append, cut_cons_of_isAlphanumeric hw.1.isAlphanumeric _ (ih hw.2 d),
        Option.any_some, hgoes]
      rfl

theorem rawWords_word_append (hc : isAlphanumeric c = true) (hw : ∀ d ∈ w, IsSmall d)
    (htail : ∀ p, cut (some p) tail = [] :: pieces) :
    rawWords (c :: (w ++ tail)) = (c :: w) :: wordsOf pieces := by
  rw [rawWords_eq, cut_cons_of_isAlphanumeric hc none (cut_small_append hw htail c)]
  rfl

theorem rawWords_word (hc : isAlphanumeric c = true) (hw : ∀ d ∈ w, IsSmall d) :
    rawWords (c :: w) = [c :: w] := by
  have hend : ∀ p, cut (some p) [] = [] :: [] := fun _ => rfl
  simpa [wordsOf] using rawWords_word_append hc hw hend

end Front

section Gap

variable {gap : List Char}

theorem rawWords_gap_append (h : ∀ d ∈ gap, isAlphanumeric d = false) (rest : List Char) :
    rawWords (gap ++ rest) = rawWords rest := by
  induction gap with
  | nil => rfl
  | cons d gap ih =>
      rw [List.forall_mem_cons] at h
      rw [List.cons_append, rawWords_eq, cut_cons_of_not_isAlphanumeric h.1, wordsOf_nil_cons,
        ← rawWords_eq, ih h.2]

/-- Behind a letter or number, a gap ends the word. -/
theorem cut_some_gap (hne : gap ≠ []) (h : ∀ d ∈ gap, isAlphanumeric d = false)
    (rest : List Char) (p : Char) :
    cut (some p) (gap ++ rest) = [] :: cut none (gap.tail ++ rest) := by
  cases gap with
  | nil => exact (hne rfl).elim
  | cons d gap => exact cut_cons_of_not_isAlphanumeric (h d List.mem_cons_self) _ _

end Gap

/-! ## Words, gaps and capitals -/

section Words

variable {w gap : String}

theorem IsPlain.exists_cons (h : IsPlain w) :
    ∃ c rest, w.toList = c :: rest ∧ IsSmall c ∧ ∀ d ∈ rest, IsSmall d := by
  cases hw : w.toList with
  | nil => exact (h.ne_empty (String.toList_eq_nil_iff.mp hw)).elim
  | cons c rest =>
      have hsmall := h.small
      rw [hw, List.forall_mem_cons] at hsmall
      exact ⟨c, rest, rfl, hsmall⟩

theorem IsPlain.lowered (h : IsPlain w) : String.ofList (w.toList.flatMap lower) = w := by
  rw [flatMap_lower h.small, String.ofList_toList]

theorem words_plain (h : IsPlain w) : words w = [w] := by
  obtain ⟨c, rest, hw, hc, hrest⟩ := h.exists_cons
  have hraw : rawWords w.toList = [w.toList] := by
    rw [hw]
    exact rawWords_word hc.isAlphanumeric hrest
  rw [words, hraw, List.map_singleton, h.lowered]

/-- A gap ends a word, and the rest of the name is cut as if it stood alone. -/
theorem words_plain_gap (hw : IsPlain w) (hgap : IsGap gap) (s : String) :
    words (w ++ (gap ++ s)) = w :: words s := by
  obtain ⟨c, rest, hchars, hc, hrest⟩ := hw.exists_cons
  have hne : gap.toList ≠ [] := fun hnil => hgap.ne_empty (String.toList_eq_nil_iff.mp hnil)
  have hmore : ∀ d ∈ gap.toList.tail, isAlphanumeric d = false :=
    fun d hd => hgap.other d (List.mem_of_mem_tail hd)
  have hraw : rawWords (w ++ (gap ++ s)).toList = w.toList :: rawWords s.toList := by
    rw [String.toList_append, String.toList_append, hchars, List.cons_append,
      rawWords_word_append hc.isAlphanumeric hrest (cut_some_gap hne hgap.other s.toList),
      ← rawWords_eq, rawWords_gap_append hmore]
  rw [words, words, hraw, List.map_cons, hw.lowered]

theorem words_capitalised (h : IsPlain w) (hletters : StartsWithLetters w) :
    words (capitalised w) = [w] := by
  obtain ⟨a, b, rest, hw, ha, -⟩ := hletters
  have hsmall := h.small
  rw [hw, List.forall_mem_cons] at hsmall
  have hupper : a.toUpper.isUpper = true := by simp [Char.isAlpha, ha]
  have hchars : (capitalised w).toList = a.toUpper :: b :: rest := by
    simp [capitalised, hw]
  have hlower : (a.toUpper :: b :: rest).flatMap lower = w.toList := by
    rw [List.flatMap_cons, lower_toUpper ha, flatMap_lower hsmall.2, hw, List.singleton_append]
  rw [words, hchars, rawWords_word (isAlphanumeric_of_isUpper hupper) hsmall.2,
    List.map_singleton, hlower, String.ofList_toList]

theorem capitalised_append (hletters : StartsWithLetters w) (s : String) :
    Capitalised (capitalised w ++ s) := by
  obtain ⟨a, b, rest, hw, ha, hb⟩ := hletters
  refine ⟨a.toUpper, b, rest ++ s.toList, ?_, by simp [Char.isAlpha, ha], hb⟩
  simp [capitalised, hw]

end Words

/-! ## Phrases -/

theorem separated_cons_cons (gap : String) (gaps : List String) (first second : String)
    (rest : List String) :
    separated (gap :: gaps) (first :: second :: rest)
      = first ++ (gap ++ separated gaps (second :: rest)) := by
  simp [separated, String.append_assoc]

theorem words_separated {ws gaps : List String} (hws : ∀ w ∈ ws, IsPlain w)
    (hlength : gaps.length + 1 = ws.length) (hgaps : ∀ g ∈ gaps, IsGap g) :
    words (separated gaps ws) = ws := by
  induction gaps generalizing ws with
  | nil =>
      obtain ⟨w, rfl⟩ := List.length_eq_one_iff.mp hlength.symm
      have hw := hws w List.mem_cons_self
      simpa [separated] using words_plain hw
  | cons gap gaps ih =>
      match ws with
      | [] | [_] => simp at hlength
      | first :: second :: rest =>
          rw [List.forall_mem_cons] at hws hgaps
          rw [separated_cons_cons, words_plain_gap hws.1 hgaps.1,
            ih hws.2 (Nat.succ.inj hlength) hgaps.2]

/-- Capitalised words behind any name are cut off one by one. -/
theorem words_append_capitalised (n : String) {ws : List String}
    (hws : ∀ w ∈ ws, IsPlain w ∧ StartsWithLetters w) :
    words (n ++ String.join (ws.map capitalised)) = words n ++ ws := by
  induction ws generalizing n with
  | nil => simp
  | cons w ws ih =>
      rw [List.forall_mem_cons] at hws
      obtain ⟨⟨hplain, hletters⟩, hrest⟩ := hws
      rw [List.map_cons, String.join_cons, words_append n (capitalised_append hletters _),
        ih _ hrest, words_capitalised hplain hletters, List.singleton_append]

theorem words_camelCase {ws : List String} (hws : ∀ w ∈ ws, IsPlain w)
    (hletters : ∀ w ∈ ws.tail, StartsWithLetters w) : words (camelCase ws) = ws := by
  cases ws with
  | nil => rfl
  | cons first rest =>
      rw [List.forall_mem_cons] at hws
      rw [camelCase, words_append_capitalised first fun w hw => ⟨hws.2 w hw, hletters w hw⟩,
        words_plain hws.1, List.singleton_append]

/-- **Cutting a name undoes the joining of its words**, whether they are joined by gaps or by
capitals. So the two spellings of a phrase have the same words. -/
theorem words_of_joined (ws : List String) (hws : ∀ w ∈ ws, IsPlain w) :
    (∀ gaps, gaps.length + 1 = ws.length → (∀ g ∈ gaps, IsGap g) → words (separated gaps ws) = ws)
    ∧ ((∀ w ∈ ws.tail, StartsWithLetters w) → words (camelCase ws) = ws)
    ∧ ∀ gaps, gaps.length + 1 = ws.length → (∀ g ∈ gaps, IsGap g) →
        (∀ w ∈ ws.tail, StartsWithLetters w) →
        words (separated gaps ws) = words (camelCase ws) := by
  refine ⟨fun gaps => words_separated hws, words_camelCase hws, ?_⟩
  intro gaps hlength hgaps hletters
  rw [words_separated hws hlength hgaps, words_camelCase hws hletters]

/-- A number stands at the end of a word, and one gap has two characters. -/
theorem words_of_joined_xml :
    (∀ w ∈ ["parses", "xml2", "file"], IsPlain w)
    ∧ (∀ g ∈ ["_", "-$"], IsGap g)
    ∧ (∀ w ∈ ["xml2", "file"], StartsWithLetters w)
    ∧ words "parses_xml2-$file" = ["parses", "xml2", "file"]
    ∧ words "parsesXml2File" = ["parses", "xml2", "file"] := by
  have hws : ∀ w ∈ ["parses", "xml2", "file"], IsPlain w := by decide +kernel
  have hgaps : ∀ g ∈ ["_", "-$"], IsGap g := by decide +kernel
  have hletters : ∀ w ∈ ["xml2", "file"], StartsWithLetters w := by
    simp only [List.forall_mem_cons]
    exact ⟨⟨'x', 'm', ['l', '2'], by decide, by decide, by decide⟩,
      ⟨'f', 'i', ['l', 'e'], by decide, by decide, by decide⟩, fun _ h => by cases h⟩
  obtain ⟨hseparated, hcamel, -⟩ := words_of_joined ["parses", "xml2", "file"] hws
  exact ⟨hws, hgaps, hletters, hseparated ["_", "-$"] rfl hgaps, hcamel hletters⟩

-- Two words of one letter in a row are one run of capitals, which is not cut.
example : words (camelCase ["has", "a", "b", "side"]) = ["has", "ab", "side"] := by decide

end SuiteLint.Name
