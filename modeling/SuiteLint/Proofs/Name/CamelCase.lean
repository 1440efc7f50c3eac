import Mathlib.Computability.RegularExpressions
import SuiteLint.Proofs.Name.Tense
import SuiteLint.Proofs.Suppression

/-!
# The language of camel case

A name is in camel case if it matches one regular expression: small letters, one capital letter, any
letters (`camelCaseForm`). The check asks for this in a roundabout way, by the number of words and by
what they are made of. Both questions about words are questions about characters: in a name that
starts with a small letter there is a second word exactly if there is a capital
(`two_le_length_words_iff`), and the words together are the name in lower case, so they hold no
digit exactly if the name holds none (`all_alphabetic_words`).
-/

namespace SuiteLint.Name

open Text

/-! ## The regular expression -/

/-- One of some characters. -/
def oneOf (cs : List Char) : RegularExpression Char := (cs.map RegularExpression.char).sum

/-- The 26 characters from `first` on. -/
def lettersFrom (first : Char) : List Char :=
  (List.range 26).map fun i => Char.ofNat (first.toNat + i)

/-- A small letter of the ASCII alphabet. -/
def smallLetter : RegularExpression Char := oneOf (lettersFrom 'a')

/-- A capital letter of the ASCII alphabet. -/
def capitalLetter : RegularExpression Char := oneOf (lettersFrom 'A')

/-- Small letters, at least one of them, then a capital letter, then any letters. -/
def camelCaseForm : RegularExpression Char :=
  smallLetter * smallLetter.star * capitalLetter * (smallLetter + capitalLetter).star

section Form

variable {c : Char} {w : List Char}

theorem mem_oneOf {cs : List Char} : w ∈ (oneOf cs).matches' ↔ ∃ c ∈ cs, w = [c] := by
  induction cs with
  | nil => simp [oneOf, Language.notMem_zero]
  | cons d cs ih =>
      have hcons : oneOf (d :: cs) = RegularExpression.char d + oneOf cs := rfl
      rw [hcons, RegularExpression.matches'_add, Language.mem_add, ih, List.exists_mem_cons_iff,
        RegularExpression.matches'_char]
      rfl

theorem mem_lettersFrom {first : Char} (hfirst : first.toNat + 26 ≤ 0xD800) :
    c ∈ lettersFrom first ↔ first.toNat ≤ c.toNat ∧ c.toNat < first.toNat + 26 := by
  simp only [lettersFrom, List.mem_map, List.mem_range]
  constructor
  · rintro ⟨i, hi, rfl⟩
    have hvalid : (first.toNat + i).isValidChar := Or.inl (by omega)
    rw [Char.toNat_ofNat, if_pos hvalid]
    omega
  · rintro ⟨hlow, hhigh⟩
    refine ⟨c.toNat - first.toNat, by omega, ?_⟩
    rw [Nat.add_sub_cancel' hlow, Char.ofNat_toNat]

theorem mem_smallLetter : w ∈ smallLetter.matches' ↔ ∃ c, c.isLower = true ∧ w = [c] := by
  rw [smallLetter, mem_oneOf]
  simp only [mem_lettersFrom (show 'a'.toNat + 26 ≤ 0xD800 by decide), isLower_iff]
  exact exists_congr fun c => and_congr_left' (and_congr_right' Nat.lt_succ_iff)

theorem mem_capitalLetter : w ∈ capitalLetter.matches' ↔ ∃ c, c.isUpper = true ∧ w = [c] := by
  rw [capitalLetter, mem_oneOf]
  simp only [mem_lettersFrom (show 'A'.toNat + 26 ≤ 0xD800 by decide), isUpper_iff]
  exact exists_congr fun c => and_congr_left' (and_congr_right' Nat.lt_succ_iff)

theorem mem_letter :
    w ∈ (smallLetter + capitalLetter).matches' ↔ ∃ c, c.isAlpha = true ∧ w = [c] := by
  rw [RegularExpression.matches'_add, Language.mem_add, mem_smallLetter, mem_capitalLetter,
    ← exists_or]
  simp only [Char.isAlpha, Bool.or_eq_true, or_and_right, or_comm]

/-- A class of single characters, repeated. -/
theorem mem_star_iff {r : RegularExpression Char} {p : Char → Bool}
    (hr : ∀ w, w ∈ r.matches' ↔ ∃ c, p c = true ∧ w = [c]) :
    w ∈ r.star.matches' ↔ ∀ c ∈ w, p c = true := by
  rw [RegularExpression.matches'_star, Language.mem_kstar]
  constructor
  · rintro ⟨pieces, rfl, hpieces⟩ c hc
    obtain ⟨piece, hpiece, hc⟩ := List.mem_flatten.mp hc
    obtain ⟨d, hd, rfl⟩ := (hr piece).mp (hpieces piece hpiece)
    rwa [List.mem_singleton.mp hc]
  · intro hw
    refine ⟨w.map fun c => [c], (List.flatMap_singleton' w).symm, fun piece hpiece => ?_⟩
    obtain ⟨c, hc, rfl⟩ := List.mem_map.mp hpiece
    exact (hr [c]).mpr ⟨c, hw c hc, rfl⟩

theorem mem_camelCaseForm_iff :
    w ∈ camelCaseForm.matches' ↔
      ∃ c front u rest, w = c :: (front ++ u :: rest)
        ∧ c.isLower = true ∧ (∀ d ∈ front, d.isLower = true) ∧ u.isUpper = true
        ∧ ∀ d ∈ rest, d.isAlpha = true := by
  simp only [camelCaseForm, RegularExpression.matches'_mul, Language.mem_mul, mem_smallLetter,
    mem_capitalLetter, mem_star_iff fun _ => mem_smallLetter, mem_star_iff fun _ => mem_letter]
  constructor
  · rintro ⟨_, ⟨_, ⟨_, ⟨c, hc, rfl⟩, front, hfront, rfl⟩, _, ⟨u, hu, rfl⟩, rfl⟩, rest, hrest, rfl⟩
    exact ⟨c, front, u, rest, by simp, hc, hfront, hu, hrest⟩
  · rintro ⟨c, front, u, rest, rfl, hc, hfront, hu, hrest⟩
    exact ⟨_, ⟨_, ⟨_, ⟨c, hc, rfl⟩, front, hfront, rfl⟩, _, ⟨u, hu, rfl⟩, rfl⟩, rest, hrest,
      by simp⟩

end Form

/-! ## The words of a name that starts small -/

section Words

variable {name : String} {c : Char} {rest : List Char}

theorem two_le_length_words_iff (hchars : name.toList = c :: rest)
    (halnum : ∀ d ∈ c :: rest, isAlphanumeric d = true) (hc : isUppercase c = false) :
    2 ≤ (words name).length ↔ ∃ d ∈ c :: rest, isUppercase d = true := by
  obtain ⟨more, hraw, hflat⟩ := exists_rawWords_front halnum hc
  have hlength : (words name).length = more.length + 1 := by
    rw [words, List.length_map, hchars, hraw, List.length_cons]
  have hempty : more = [] ↔ more.flatten = [] := by
    refine ⟨fun h => by rw [h]; rfl, fun h => ?_⟩
    -- No word is empty, so nothing is behind the first word only if there is no other word.
    refine List.eq_nil_iff_forall_not_mem.mpr fun w hw => ?_
    have hmem : w ∈ rawWords (c :: rest) := hraw ▸ List.mem_cons_of_mem _ hw
    have hne := (List.mem_filter.mp hmem).2
    rw [List.flatten_eq_nil_iff.mp h w hw] at hne
    cases hne
  rw [hlength, Nat.succ_le_succ_iff, Nat.one_le_iff_ne_zero, ne_eq, List.length_eq_zero_iff,
    hempty, hflat, List.dropWhile_eq_nil_iff]
  simp only [Bool.not_eq_true', not_forall, exists_prop, Bool.not_eq_false]

theorem all_isAlphabetic_lower (h : isAsciiAlphanumeric c = true) :
    (lower c).all isAlphabetic = c.isAlpha := by
  rcases isUpper_or_isSmall h with hupper | hsmall
  · have halpha : c.isAlpha = true := by rw [Char.isAlpha, hupper, Bool.true_or]
    have hlower : c.toLower.isLower = true := by simpa using halpha
    have hsmall : IsSmall c.toLower := Or.inl hlower
    rw [lower, if_pos (isAscii_of_isUpper hupper), List.all_cons, List.all_nil, Bool.and_true,
      isAlphabetic, if_pos hsmall.isAscii, halpha, Char.isAlpha, hlower, Bool.or_true]
  · rw [hsmall.lower, List.all_cons, List.all_nil, Bool.and_true, isAlphabetic,
      if_pos hsmall.isAscii]

theorem all_alphabetic_words (hname : ∀ d ∈ name.toList, isAsciiAlphanumeric d = true) :
    ((words name).all fun w => w.toList.all isAlphabetic) = name.toList.all Char.isAlpha := by
  have halnum : name.toList.filter isAlphanumeric = name.toList :=
    List.filter_eq_self.mpr fun d hd => isAlphanumeric_of_ascii (hname d hd)
  have hjoin : (words name).flatMap String.toList = name.toList.flatMap lower := by
    rw [← String.toList_join, join_words, String.toList_ofList, halnum]
  rw [← List.all_flatMap, hjoin, List.all_flatMap]
  rw [Bool.eq_iff_iff, List.all_eq_true, List.all_eq_true]
  exact forall₂_congr fun d hd => by rw [all_isAlphabetic_lower (hname d hd)]

theorem isCamelCase_iff_of_cons (hchars : name.toList = c :: rest) :
    isCamelCase name = true ↔
      c.isLower = true ∧ (∀ d ∈ c :: rest, d.isAlpha = true)
        ∧ ∃ d ∈ c :: rest, d.isUpper = true := by
  have hcheck : isCamelCase name = true ↔
      ((c.isLower = true ∧ ∀ d ∈ c :: rest, isAsciiAlphanumeric d = true)
        ∧ 2 ≤ (words name).length)
      ∧ ((words name).all fun w => w.toList.all isAlphabetic) = true := by
    simp only [isCamelCase, hchars, Bool.and_eq_true, decide_eq_true_eq, List.head?_cons,
      Option.any_some, List.all_eq_true]
  -- Under the first two conditions, the other two are the ones on the right.
  have hsame : c.isLower = true → (∀ d ∈ c :: rest, isAsciiAlphanumeric d = true) →
      (2 ≤ (words name).length ↔ ∃ d ∈ c :: rest, d.isUpper = true)
      ∧ (((words name).all fun w => w.toList.all isAlphabetic) = true ↔
          ∀ d ∈ c :: rest, d.isAlpha = true) := by
    intro hc hname
    have halnum : ∀ d ∈ c :: rest, isAlphanumeric d = true :=
      fun d hd => isAlphanumeric_of_ascii (hname d hd)
    have hsmall : IsSmall c := Or.inl hc
    rw [two_le_length_words_iff hchars halnum hsmall.not_isUppercase,
      all_alphabetic_words (hchars ▸ hname), hchars, List.all_eq_true]
    refine ⟨exists_congr fun d => and_congr_right fun hd => ?_, Iff.rfl⟩
    rw [isUppercase_of_ascii (hname d hd)]
  rw [hcheck]
  constructor
  · rintro ⟨⟨⟨hc, hname⟩, hlength⟩, hwords⟩
    exact ⟨hc, (hsame hc hname).2.mp hwords, (hsame hc hname).1.mp hlength⟩
  · rintro ⟨hc, halpha, hupper⟩
    have hname : ∀ d ∈ c :: rest, isAsciiAlphanumeric d = true := by
      intro d hd
      rw [isAsciiAlphanumeric, Char.isAlphanum, halpha d hd, Bool.true_or]
    exact ⟨⟨⟨hc, hname⟩, (hsame hc hname).1.mpr hupper⟩, (hsame hc hname).2.mpr halpha⟩

end Words

theorem isCamelCase_iff_mem_form (name : String) :
    isCamelCase name = true ↔ name.toList ∈ camelCaseForm.matches' := by
  rw [mem_camelCaseForm_iff]
  cases hchars : name.toList with
  | nil => simp [isCamelCase, hchars]
  | cons c rest =>
      rw [isCamelCase_iff_of_cons hchars]
      constructor
      · rintro ⟨hc, halpha, hupper⟩
        have hsmall : IsSmall c := Or.inl hc
        have hfound : (rest.find? Char.isUpper).isSome = true := by
          rw [List.find?_isSome]
          simpa [hsmall.not_isUpper] using hupper
        obtain ⟨u, hfound⟩ := Option.isSome_iff_exists.mp hfound
        obtain ⟨hu, front, behind, rfl, hfront⟩ := List.find?_eq_some_iff_append.mp hfound
        refine ⟨c, front, u, behind, rfl, hc, fun d hd => ?_, hu, fun d hd => ?_⟩
        · have hd' := halpha d (by simp [hd])
          rw [Char.isAlpha, Bool.or_eq_true] at hd'
          exact hd'.resolve_left (by simpa using hfront d hd)
        · exact halpha d (by simp [hd])
      · rintro ⟨c', front, u, behind, hsplit, hc, hfront, hu, hbehind⟩
        obtain ⟨rfl, rfl⟩ := List.cons.inj hsplit
        refine ⟨hc, fun d hd => ?_, u, by simp, hu⟩
        rw [Char.isAlpha, Bool.or_eq_true]
        rw [List.mem_cons, List.mem_append, List.mem_cons] at hd
        rcases hd with rfl | hd | rfl | hd
        · exact Or.inr hc
        · exact Or.inr (hfront d hd)
        · exact Or.inl hu
        · exact Bool.or_eq_true_iff.mp (hbehind d hd)

/-! ## The rule -/

theorem notCamelCase_complaints (context : Context) (everywhere : OrderedSet String)
    (c : TestClass) :
    Rule.notCamelCase.complaints context everywhere c
      = (c.cases.filter fun k =>
          !Suppression.silences everywhere k.suppressed Rule.notCamelCase.id
            && !isCamelCase k.name).map fun k =>
          Complaint.onCase Rule.notCamelCase.id c k
            "the test name has to be written in camelCase" := by
  rw [Rule.filter_map_eq_flatMap]
  refine List.flatMap_congr fun k _ => ?_
  cases Suppression.silences everywhere k.suppressed Rule.notCamelCase.id with
  | true => rfl
  | false => cases hname : isCamelCase k.name <;> simp [hname]

/-- **Camel case is a regular language.** The check accepts a name exactly if it matches the
expression, and the rule complains about all other names, once for each case that does not suppress
it. -/
theorem isCamelCase_iff_matches :
    (∀ name, isCamelCase name = true ↔ name.toList ∈ camelCaseForm.matches')
    ∧ ∀ context everywhere (c : TestClass),
      Rule.notCamelCase.complaints context everywhere c
        = (c.cases.filter fun k =>
            !Suppression.silences everywhere k.suppressed Rule.notCamelCase.id
              && decide (k.name.toList ∉ camelCaseForm.matches')).map fun k =>
            Complaint.onCase Rule.notCamelCase.id c k
              "the test name has to be written in camelCase" := by
  refine ⟨isCamelCase_iff_mem_form, fun context everywhere c => ?_⟩
  have houtside : ∀ k : TestCase,
      (!isCamelCase k.name) = decide (k.name.toList ∉ camelCaseForm.matches') := by
    intro k
    rw [Bool.eq_iff_iff, decide_eq_true_iff, ← isCamelCase_iff_mem_form, Bool.not_eq_true',
      Bool.not_eq_true]
  simp only [notCamelCase_complaints, houtside]

-- A capital may follow at once, but not stand first, and a digit may stand nowhere.
example : ["aB", "readsJSON", "Ab", "reads2Files"].map isCamelCase = [true, true, false, false] := by
  decide +kernel

end SuiteLint.Name
