import SuiteLint.Name.Tense
import SuiteLint.Name.Words

/-!
# Words behind a name

A capital letter with a small letter behind it starts a word wherever it stands: behind a small
letter, behind a number, and also behind the last capital of an acronym. So what such a pair opens
can be cut on its own (`words_append`), and the verb in front of it is not touched
(`isPresentTense_append`). The other direction, what a name looks like from the end of the text
before it, needs the first letter only: a capital letter does not make the last letter before it
start a word, just as the end of a text does not.
-/

namespace SuiteLint.Name

open Text

/-- A text that starts with a capital and a small letter of the ASCII alphabet. -/
def Capitalised (s : String) : Prop :=
  ∃ u l rest, s.toList = u :: l :: rest ∧ u.isUpper = true ∧ l.isLower = true

/-! ## ASCII letters -/

theorem isUpper_iff {c : Char} : c.isUpper = true ↔ 65 ≤ c.toNat ∧ c.toNat ≤ 90 := by
  show decide (65 ≤ c.val ∧ c.val ≤ 90) = true ↔ _
  rw [decide_eq_true_iff, UInt32.le_iff_toNat_le, UInt32.le_iff_toNat_le]
  rfl

theorem isLower_iff {c : Char} : c.isLower = true ↔ 97 ≤ c.toNat ∧ c.toNat ≤ 122 := by
  show (decide (97 ≤ c.val) && decide (c.val ≤ 122)) = true ↔ _
  rw [Bool.and_eq_true, decide_eq_true_iff, decide_eq_true_iff, UInt32.le_iff_toNat_le,
    UInt32.le_iff_toNat_le]
  rfl

theorem isDigit_iff {c : Char} : c.isDigit = true ↔ 48 ≤ c.toNat ∧ c.toNat ≤ 57 := by
  show (decide (48 ≤ c.val) && decide (c.val ≤ 57)) = true ↔ _
  rw [Bool.and_eq_true, decide_eq_true_iff, decide_eq_true_iff, UInt32.le_iff_toNat_le,
    UInt32.le_iff_toNat_le]
  rfl

section Letters

variable {c : Char}

theorem isAscii_of_isUpper (h : c.isUpper = true) : isAscii c = true := by
  have hbounds := isUpper_iff.mp h
  exact decide_eq_true (by omega)

theorem isAscii_of_isLower (h : c.isLower = true) : isAscii c = true := by
  have hbounds := isLower_iff.mp h
  exact decide_eq_true (by omega)

theorem isUppercase_of_isUpper (h : c.isUpper = true) : isUppercase c = true := by
  rw [isUppercase, if_pos (isAscii_of_isUpper h), h]

theorem isAlphanumeric_of_isUpper (h : c.isUpper = true) : isAlphanumeric c = true := by
  have halpha : c.isAlpha = true := Bool.or_eq_true_iff.mpr (.inl h)
  rw [isAlphanumeric, isAlphabetic, if_pos (isAscii_of_isUpper h), halpha]
  rfl

theorem isLowercase_of_isLower (h : c.isLower = true) : isLowercase c = true := by
  rw [isLowercase, if_pos (isAscii_of_isLower h), h]

theorem not_isLowercase_of_isUpper (h : c.isUpper = true) : isLowercase c = false := by
  rw [isLowercase, if_pos (isAscii_of_isUpper h), Bool.eq_false_iff, ne_eq, isLower_iff]
  have hbounds := isUpper_iff.mp h
  omega

end Letters

/-! ## Cutting -/

/-- The pieces that are words. -/
def wordsOf (pieces : List (List Char)) : List (List Char) :=
  pieces.filter fun piece => !piece.isEmpty

theorem rawWords_eq (cs : List Char) : rawWords cs = wordsOf (cut none cs) := rfl

@[simp] theorem wordsOf_nil_cons (pieces : List (List Char)) :
    wordsOf ([] :: pieces) = wordsOf pieces := rfl

@[simp] theorem wordsOf_cons_cons (c : Char) (piece : List Char) (pieces : List (List Char)) :
    wordsOf ((c :: piece) :: pieces) = (c :: piece) :: wordsOf pieces := rfl

theorem exists_cut (prev : Option Char) (cs : List Char) :
    ∃ piece pieces, cut prev cs = piece :: pieces := by
  cases cs with
  | nil => exact ⟨[], [], rfl⟩
  | cons c rest =>
      rw [cut]
      split
      · dsimp only
        split <;> exact ⟨_, _, rfl⟩
      · exact ⟨_, _, rfl⟩

theorem cut_cons_of_not_isAlphanumeric {c : Char} (h : isAlphanumeric c = false)
    (prev : Option Char) (rest : List Char) : cut prev (c :: rest) = [] :: cut none rest := by
  rw [cut, h]
  rfl

/-- A letter or number goes to the front of what follows, and starts a word or goes on with one. -/
theorem cut_cons_of_isAlphanumeric {c : Char} (h : isAlphanumeric c = true) (prev : Option Char)
    {rest piece : List Char} {pieces : List (List Char)}
    (hrest : cut (some c) rest = piece :: pieces) :
    cut prev (c :: rest) =
      if prev.any fun p => startsWord p c rest.head? then [] :: (c :: piece) :: pieces
      else (c :: piece) :: pieces := by
  rw [cut, h, hrest]
  rfl

section Seam

variable {u l : Char} {rest : List Char}

/-- Behind a letter or number, a capital and a small letter start a word. -/
theorem cut_some_capital (hu : u.isUpper = true) (hl : l.isLower = true) (p : Char) :
    cut (some p) (u :: l :: rest) = [] :: cut none (u :: l :: rest) := by
  obtain ⟨piece, pieces, hrest⟩ := exists_cut (some u) (l :: rest)
  have halnum := isAlphanumeric_of_isUpper hu
  have hstarts : startsWord p u (some l) = true := by
    simp [startsWord, isUppercase_of_isUpper hu, isLowercase_of_isLower hl]
  rw [cut_cons_of_isAlphanumeric halnum _ hrest, cut_cons_of_isAlphanumeric halnum _ hrest]
  simp [hstarts]

/-- The last letter of a text starts a word or does not, whether a capital follows or nothing. -/
theorem startsWord_head?_append (hu : u.isUpper = true) (p c : Char) (n : List Char) :
    startsWord p c (n ++ u :: rest).head? = startsWord p c n.head? := by
  cases n with
  | nil => simp [startsWord, not_isLowercase_of_isUpper hu]
  | cons d n => rfl

/-- Behind a word that is under way, the piece that goes on with it is the same with and without
what a capital opens, and the words behind it are those of both texts. -/
theorem cut_append (hu : u.isUpper = true) (hl : l.isLower = true) (n : List Char) :
    rawWords (n ++ u :: l :: rest) = rawWords n ++ rawWords (u :: l :: rest)
    ∧ ∀ p, ∃ piece pieces pieces', cut (some p) (n ++ u :: l :: rest) = piece :: pieces
      ∧ cut (some p) n = piece :: pieces'
      ∧ wordsOf pieces = wordsOf pieces' ++ rawWords (u :: l :: rest) := by
  induction n with
  | nil =>
      refine ⟨rfl, fun p => ?_⟩
      exact ⟨[], _, [], cut_some_capital hu hl p, rfl, rfl⟩
  | cons c n ih =>
      obtain ⟨hwords, hcut⟩ := ih
      rw [List.cons_append]
      cases hc : isAlphanumeric c with
      | false =>
          simp only [rawWords_eq, cut_cons_of_not_isAlphanumeric hc, wordsOf_nil_cons] at hwords ⊢
          exact ⟨hwords, fun p => ⟨[], _, _, rfl, rfl, hwords⟩⟩
      | true =>
          -- `c` is the letter before what follows, so the second half says how that is cut.
          obtain ⟨piece, pieces, pieces', hlong, hshort, hpieces⟩ := hcut c
          simp only [rawWords_eq, cut_cons_of_isAlphanumeric hc _ hlong,
            cut_cons_of_isAlphanumeric hc _ hshort, startsWord_head?_append hu] at hpieces ⊢
          refine ⟨by simpa using hpieces, fun p => ?_⟩
          cases hstarts : startsWord p c n.head? with
          | false => exact ⟨c :: piece, pieces, pieces', by simp [hstarts], by simp [hstarts], hpieces⟩
          | true =>
              exact ⟨[], (c :: piece) :: pieces, (c :: piece) :: pieces', by simp [hstarts],
                by simp [hstarts], by simpa using hpieces⟩

end Seam

theorem words_append (n : String) {s : String} (hs : Capitalised s) :
    words (n ++ s) = words n ++ words s := by
  obtain ⟨u, l, rest, hchars, hu, hl⟩ := hs
  rw [words, words, words, String.toList_append, hchars, (cut_append hu hl n.toList).1,
    List.map_append]

/-! ## The verb in front -/

theorem endsInS_append {u : Char} (hu : isUppercase u = true) (prev : Option Char)
    (n rest : List Char) : endsInS prev (n ++ u :: rest) = endsInS prev n := by
  induction n generalizing prev with
  | nil => simp [endsInS, hu]
  | cons c n ih =>
      rw [List.cons_append, endsInS, endsInS]
      cases isUppercase c with
      | true => rfl
      | false => exact ih _

theorem isPresentTense_append (n : String) {s : String} (hs : Capitalised s) :
    isPresentTense (n ++ s) = isPresentTense n := by
  obtain ⟨u, l, rest, hchars, hu, -⟩ := hs
  rw [isPresentTense, isPresentTense, String.toList_append, hchars,
    endsInS_append (isUppercase_of_isUpper hu)]

end SuiteLint.Name
