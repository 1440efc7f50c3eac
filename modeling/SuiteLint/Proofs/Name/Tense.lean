import SuiteLint.Proofs.Name.Boundaries
import SuiteLint.Proofs.Name.Joining
import SuiteLint.Proofs.Text.Split

/-!
# The verb at the front of a name

The check for the third person reads a name up to its first capital, passes over numbers, and asks
for an `s` at the end of what is left (`isPresentTense_iff`). Cutting the name into words works by
the characters before and behind each capital instead. Where a name of letters and numbers does not
start with a capital, both stop at the same place: the first capital has no capital before it, so it
starts a word, and the first word is what stands in front of it (`exists_rawWords_front`).

A number is passed over, but a capital ends the verb even if it is a number. The characters that are
both are the Roman capitals (`isUppercase_and_isNumeric`). Taking the numbers out of a name moves
the end of the verb to the first capital that is a letter, and the answer then depends on the
letters in between (`numbers_passed_over_iff`).
-/

namespace SuiteLint.Name

open Text

/-- A text without the characters that satisfy `gone`. -/
def without (gone : Char → Bool) (s : String) : String :=
  String.ofList (s.toList.filter fun c => !gone c)

/-- What stands in front of the first character that satisfies `stop`, numbers left out. -/
def lettersBefore (stop : Char → Bool) (cs : List Char) : List Char :=
  (cs.takeWhile fun c => !stop c).filter fun c => !isNumeric c

/-! ## What the check reads -/

theorem endsInS_eq (prev : Option Char) (cs : List Char) :
    endsInS prev cs = ((lettersBefore isUppercase cs).getLast?.or prev == some 's') := by
  induction cs generalizing prev with
  | nil => rfl
  | cons c rest ih =>
      rw [endsInS]
      cases hc : isUppercase c with
      | true => simp [lettersBefore, hc]
      | false =>
          rw [if_neg Bool.false_ne_true, ih]
          cases hn : isNumeric c with
          | true => simp [lettersBefore, hc, hn]
          | false =>
              -- `c` is the letter that counts if none follows it.
              have hfront : lettersBefore isUppercase (c :: rest)
                  = c :: lettersBefore isUppercase rest := by
                simp [lettersBefore, hc, hn]
              rw [hfront, List.getLast?_cons]
              cases (lettersBefore isUppercase rest).getLast? <;> rfl

theorem isPresentTense_iff {name : String} :
    isPresentTense name = true ↔ (lettersBefore isUppercase name.toList).getLast? = some 's' := by
  rw [isPresentTense, endsInS_eq, Option.or_none, beq_iff_eq]

/-! ## The first word -/

section Front

variable {p c : Char} {cs rest : List Char}

/-- Behind a letter or number that is no capital, a word goes on up to the first capital. -/
theorem exists_cut_front (halnum : ∀ c ∈ cs, isAlphanumeric c = true)
    (hp : isUppercase p = false) :
    ∃ pieces, cut (some p) cs = (cs.takeWhile fun c => !isUppercase c) :: pieces := by
  induction cs generalizing p with
  | nil => exact ⟨[], rfl⟩
  | cons c rest ih =>
      rw [List.forall_mem_cons] at halnum
      cases hc : isUppercase c with
      | true =>
          obtain ⟨piece, pieces, hrest⟩ := exists_cut (some c) rest
          have hstarts : startsWord p c rest.head? = true := by simp [startsWord, hc, hp]
          refine ⟨(c :: piece) :: pieces, ?_⟩
          rw [cut_cons_of_isAlphanumeric halnum.1 _ hrest]
          simp [hstarts, hc]
      | false =>
          obtain ⟨pieces, hrest⟩ := ih halnum.2 hc
          have hgoes : startsWord p c rest.head? = false := by simp [startsWord, hc]
          refine ⟨pieces, ?_⟩
          rw [cut_cons_of_isAlphanumeric halnum.1 _ hrest]
          simp [hgoes, hc]

/-- The first word ends at the first capital, and the other words make up what stands behind. -/
theorem exists_rawWords_front (halnum : ∀ d ∈ c :: rest, isAlphanumeric d = true)
    (hc : isUppercase c = false) :
    ∃ more, rawWords (c :: rest) = ((c :: rest).takeWhile fun d => !isUppercase d) :: more
      ∧ more.flatten = (c :: rest).dropWhile fun d => !isUppercase d := by
  have hcons := List.forall_mem_cons.mp halnum
  obtain ⟨pieces, hrest⟩ := exists_cut_front hcons.2 hc
  have hraw : rawWords (c :: rest)
      = ((c :: rest).takeWhile fun d => !isUppercase d) :: wordsOf pieces := by
    rw [rawWords_eq, cut_cons_of_isAlphanumeric hcons.1 none hrest]
    simp [hc]
  have hflat := flatten_rawWords (c :: rest)
  rw [List.filter_eq_self.mpr halnum, hraw, List.flatten_cons] at hflat
  refine ⟨wordsOf pieces, hraw, List.append_cancel_left (hflat.trans ?_)⟩
  exact List.takeWhile_append_dropWhile.symm

end Front

/-! ## Names of ASCII letters and digits -/

section Ascii

variable {c : Char} {cs rest : List Char}

theorem isUpper_or_isSmall (h : isAsciiAlphanumeric c = true) : c.isUpper = true ∨ IsSmall c := by
  simpa [isAsciiAlphanumeric, Char.isAlphanum, Char.isAlpha, IsSmall, or_assoc] using h

theorem isAlphanumeric_of_ascii (h : isAsciiAlphanumeric c = true) : isAlphanumeric c = true := by
  rcases isUpper_or_isSmall h with hupper | hsmall
  · exact isAlphanumeric_of_isUpper hupper
  · exact hsmall.isAlphanumeric

theorem isUppercase_of_ascii (h : isAsciiAlphanumeric c = true) : isUppercase c = c.isUpper := by
  rcases isUpper_or_isSmall h with hupper | hsmall
  · rw [isUppercase_of_isUpper hupper, hupper]
  · rw [hsmall.not_isUppercase, hsmall.not_isUpper]

theorem isSmall_of_mem_front (hcs : ∀ d ∈ cs, isAsciiAlphanumeric d = true)
    (hc : c ∈ cs.takeWhile fun d => !isUppercase d) : IsSmall c := by
  have hascii := hcs c ((List.takeWhile_sublist _).mem hc)
  have hnot := List.all_eq_true.mp List.all_takeWhile c hc
  rw [isUppercase_of_ascii hascii] at hnot
  exact (isUpper_or_isSmall hascii).resolve_left (by simpa using hnot)

theorem lettersBefore_of_ascii (hcs : ∀ d ∈ cs, isAsciiAlphanumeric d = true) :
    lettersBefore isUppercase cs
      = (cs.takeWhile fun d => !isUppercase d).filter fun d => !d.isDigit := by
  refine List.filter_congr fun d hd => ?_
  rw [isNumeric, if_pos (isSmall_of_mem_front hcs hd).isAscii]

/-- The first word is written in small characters already. -/
theorem exists_words_front {name : String} (hchars : name.toList = c :: rest)
    (hname : ∀ d ∈ c :: rest, isAsciiAlphanumeric d = true) (hc : isUppercase c = false) :
    ∃ more, words name
      = String.ofList ((c :: rest).takeWhile fun d => !isUppercase d) :: more := by
  obtain ⟨more, hraw, -⟩ :=
    exists_rawWords_front (fun d hd => isAlphanumeric_of_ascii (hname d hd)) hc
  refine ⟨more.map fun w => String.ofList (w.flatMap lower), ?_⟩
  rw [words, hchars, hraw, List.map_cons, flatMap_lower fun d => isSmall_of_mem_front hname]

end Ascii

theorem endsWith_s_iff {s : String} : endsWith "s" s = true ↔ s.toList.getLast? = some 's' := by
  rw [endsWith_iff, List.getLast?_eq_some_iff]
  exact exists_congr fun _ => eq_comm

/-- **The check and the words agree on the verb.** In a name of ASCII letters and digits that does
not start with a capital, the check asks whether there is a first word and whether it ends in `s`
once its digits are left out. -/
theorem isPresentTense_iff_first_word (name : String)
    (hname : ∀ c ∈ name.toList, isAsciiAlphanumeric c = true)
    (hstart : ∀ c, name.toList.head? = some c → c.isUpper = false) :
    isPresentTense name = true ↔
      ∃ first more, words name = first :: more
        ∧ endsWith "s" (without Char.isDigit first) = true := by
  rw [isPresentTense_iff]
  cases hchars : name.toList with
  | nil => simp [words, hchars, rawWords, cut, lettersBefore]
  | cons c rest =>
      rw [hchars] at hname hstart
      have hc : isUppercase c = false := by
        rw [isUppercase_of_ascii (hname c List.mem_cons_self), hstart c rfl]
      obtain ⟨more, hwords⟩ := exists_words_front hchars hname hc
      simp only [hwords, lettersBefore_of_ascii hname, List.cons.injEq, endsWith_s_iff, without,
        String.toList_ofList]
      constructor
      · intro hlast
        exact ⟨_, more, ⟨rfl, rfl⟩, by rwa [String.toList_ofList]⟩
      · rintro ⟨first, _, ⟨rfl, -⟩, hlast⟩
        rwa [String.toList_ofList] at hlast

/-- A number in front of the verb, one behind it, and a run of capitals. -/
theorem isPresentTense_iff_first_word_xml :
    (∀ c ∈ "2parses3XMLFile".toList, isAsciiAlphanumeric c = true)
    ∧ (∀ c, "2parses3XMLFile".toList.head? = some c → c.isUpper = false)
    ∧ words "2parses3XMLFile" = ["2parses3", "xml", "file"]
    ∧ isPresentTense "2parses3XMLFile" = true := by
  have hname : ∀ c ∈ "2parses3XMLFile".toList, isAsciiAlphanumeric c = true :=
    List.all_eq_true.mp (by decide)
  have hstart : ∀ c, "2parses3XMLFile".toList.head? = some c → c.isUpper = false := by
    rintro c ⟨⟩
    decide
  have hwords : words "2parses3XMLFile" = ["2parses3", "xml", "file"] := by decide +kernel
  refine ⟨hname, hstart, hwords, (isPresentTense_iff_first_word _ hname hstart).mpr ?_⟩
  exact ⟨_, _, hwords, by decide⟩

/-! ## Capitals that are numbers -/

/-- Whether a character is one of the numerals from `Ⅰ` to `Ⅿ`. -/
def isRomanCapital (c : Char) : Bool := 0x2160 ≤ c.toNat && c.toNat ≤ 0x216F

/-- Whether one of two runs ends before the other one starts. -/
def liesApart (r s : Run) : Bool := Nat.blt r.last s.first || Nat.blt s.last r.first

/-- The run of the Roman capitals is the only one of the capitals that reaches into the numbers. -/
theorem uppercaseRuns_liesApart :
    ∀ r ∈ uppercaseRuns, r = ⟨0x2160, 0x216F, 1⟩ ∨ numericRuns.all (liesApart r) = true := by
  decide +kernel

theorem not_liesApart {r s : Run} {n : Nat} (hr : r.first ≤ n ∧ n ≤ r.last)
    (hs : s.first ≤ n ∧ n ≤ s.last) : liesApart r s = false := by
  rw [liesApart, Bool.eq_false_iff, ne_eq, Bool.or_eq_true, Nat.blt_eq, Nat.blt_eq]
  omega

theorem isUppercase_and_isNumeric (c : Char) :
    (isUppercase c && isNumeric c) = isRomanCapital c := by
  rw [Bool.eq_iff_iff, Bool.and_eq_true, isUppercase, isNumeric, isRomanCapital, Bool.and_eq_true,
    decide_eq_true_iff, decide_eq_true_iff]
  cases hascii : isAscii c with
  | true =>
      have hsmall : c.toNat < 128 := of_decide_eq_true hascii
      simp only [if_true, isUpper_iff, isDigit_iff]
      omega
  | false =>
      simp only [Bool.false_eq_true, if_false, Run.tableHas, List.any_eq_true, Run.covers,
        Bool.and_eq_true, decide_eq_true_eq]
      constructor
      · rintro ⟨⟨r, hr, hrbounds, -⟩, s, hs, hsbounds, -⟩
        rcases uppercaseRuns_liesApart r hr with rfl | hall
        · exact hrbounds
        · have hapart := List.all_eq_true.mp hall s hs
          rw [not_liesApart hrbounds hsbounds] at hapart
          cases hapart
      · intro hbounds
        have hupper : (⟨0x2160, 0x216F, 1⟩ : Run) ∈ uppercaseRuns := by decide +kernel
        have hnumeric : (⟨0x2150, 0x2182, 1⟩ : Run) ∈ numericRuns := by decide +kernel
        have hwide : 0x2150 ≤ c.toNat ∧ c.toNat ≤ 0x2182 := by omega
        exact ⟨⟨_, hupper, hbounds, by simp [Nat.mod_one]⟩,
          _, hnumeric, hwide, by simp [Nat.mod_one]⟩

/-! ## Names without their numbers -/

/-- Whether a character is a capital and no number. -/
def isLetterCapital (c : Char) : Bool := isUppercase c && !isRomanCapital c

/-- The letters between the first capital and the first capital that is no number. -/
def lettersBetween (cs : List Char) : List Char :=
  lettersBefore isLetterCapital (cs.dropWhile fun c => !isUppercase c)

/-- Where numbers are taken out, the verb ends at the first capital that is left. -/
theorem lettersBefore_filter {gone : Char → Bool} (hgone : ∀ c, gone c = true → isNumeric c = true)
    (cs : List Char) :
    lettersBefore isUppercase (cs.filter fun c => !gone c)
      = lettersBefore (fun c => isUppercase c && !gone c) cs := by
  have hstop : (fun c => !!gone c || !isUppercase c) = fun c => !(isUppercase c && !gone c) := by
    funext c
    cases gone c <;> simp
  rw [lettersBefore, lettersBefore, List.takeWhile_filter, List.filter_filter, hstop]
  refine List.filter_congr fun c _ => ?_
  cases hc : gone c with
  | false => simp
  | true => simp [hgone c hc]

/-- The verb of a name without its numbers has the letters in between at its end. -/
theorem lettersBefore_isLetterCapital (cs : List Char) :
    lettersBefore isLetterCapital cs = lettersBefore isUppercase cs ++ lettersBetween cs := by
  have hfront : ∀ c ∈ cs.takeWhile fun c => !isUppercase c, (!isLetterCapital c) = true := by
    intro c hc
    have hsmall := List.all_eq_true.mp List.all_takeWhile c hc
    rw [Bool.not_eq_true'] at hsmall
    simp [isLetterCapital, hsmall]
  have hsplit : (cs.takeWhile fun c => !isLetterCapital c)
      = (cs.takeWhile fun c => !isUppercase c)
        ++ (cs.dropWhile fun c => !isUppercase c).takeWhile fun c => !isLetterCapital c := by
    rw [← List.takeWhile_append_of_pos hfront, List.takeWhile_append_dropWhile]
  rw [lettersBefore, hsplit, List.filter_append]
  rfl

/-- No letter lies in between if the first capital is no number. -/
theorem lettersBetween_eq_nil {cs : List Char}
    (h : ∀ c, cs.find? isUppercase = some c → isRomanCapital c = false) :
    lettersBetween cs = [] := by
  induction cs with
  | nil => rfl
  | cons c rest ih =>
      cases hc : isUppercase c with
      | true =>
          have hletter := h c (List.find?_cons_of_pos hc)
          simp [lettersBetween, lettersBefore, isLetterCapital, hc, hletter]
      | false =>
          have hrest := ih fun d hd => h d (by simpa [hc] using hd)
          simpa [lettersBetween, hc] using hrest

theorem isPresentTense_without_iff {name : String} :
    isPresentTense (without isNumeric name) = true ↔
      (lettersBefore isUppercase name.toList ++ lettersBetween name.toList).getLast?
        = some 's' := by
  have hstop : (fun c => isUppercase c && !isNumeric c) = isLetterCapital := by
    funext c
    rw [isLetterCapital, ← isUppercase_and_isNumeric]
    cases isUppercase c <;> simp
  rw [isPresentTense_iff, without, String.toList_ofList, lettersBefore_filter fun _ h => h, hstop,
    lettersBefore_isLetterCapital]

theorem isPresentTense_without_small (name : String) :
    isPresentTense (without (fun c => isNumeric c && !isRomanCapital c) name)
      = isPresentTense name := by
  have hgone : ∀ c, (isNumeric c && !isRomanCapital c) = true → isNumeric c = true :=
    fun c hc => (Bool.and_eq_true_iff.mp hc).1
  have hstop : (fun c => isUppercase c && !(isNumeric c && !isRomanCapital c)) = isUppercase := by
    funext c
    rw [← isUppercase_and_isNumeric]
    cases isUppercase c <;> cases isNumeric c <;> rfl
  rw [Bool.eq_iff_iff, isPresentTense_iff, isPresentTense_iff, without, String.toList_ofList,
    lettersBefore_filter hgone, hstop]

/-- **Numbers are passed over, unless they are capitals.** All numbers but the Roman capitals can be
taken out of a name. Taking out these as well keeps the answer exactly if there are no letters
between the first capital and the first one that is no number, or if these letters end in `s` just
as the letters in front of them do; so it does if the first capital is no number. -/
theorem numbers_passed_over_iff (name : String) :
    isPresentTense (without (fun c => isNumeric c && !isRomanCapital c) name)
      = isPresentTense name
    ∧ (isPresentTense (without isNumeric name) = isPresentTense name ↔
        lettersBetween name.toList = []
        ∨ ((lettersBetween name.toList).getLast? = some 's' ↔
            (lettersBefore isUppercase name.toList).getLast? = some 's'))
    ∧ ((∀ c, name.toList.find? isUppercase = some c → isRomanCapital c = false) →
        isPresentTense (without isNumeric name) = isPresentTense name) := by
  have hiff : isPresentTense (without isNumeric name) = isPresentTense name ↔
      lettersBetween name.toList = []
      ∨ ((lettersBetween name.toList).getLast? = some 's' ↔
          (lettersBefore isUppercase name.toList).getLast? = some 's') := by
    rw [Bool.eq_iff_iff, isPresentTense_without_iff, isPresentTense_iff, List.getLast?_append]
    cases lettersBetween name.toList with
    | nil => simp
    | cons c rest => simp [List.getLast?_cons]
  exact ⟨isPresentTense_without_small name, hiff,
    fun hfirst => hiff.mpr (Or.inl (lettersBetween_eq_nil hfirst))⟩

/-- A small numeral and a fraction are passed over. -/
theorem numbers_passed_over_iff_fraction :
    "removesⅷ½Item".toList.find? isUppercase = some 'I'
    ∧ isPresentTense (without isNumeric "removesⅷ½Item") = isPresentTense "removesⅷ½Item" := by
  have hfirst : "removesⅷ½Item".toList.find? isUppercase = some 'I' := by decide +kernel
  refine ⟨hfirst, (numbers_passed_over_iff _).2.2 fun c hc => ?_⟩
  obtain rfl : 'I' = c := Option.some.inj (hfirst.symm.trans hc)
  decide

/-- A Roman capital ends the verb, although it is a number: without it, the name does not read as
third person. -/
theorem verb_ended_by_numeral :
    ¬∀ name : String, isPresentTense name = isPresentTense (without isNumeric name) := by
  intro h
  have hname : isPresentTense "removesⅧitem" = true := by decide +kernel
  have hwithout : isPresentTense (without isNumeric "removesⅧitem") = false := by decide +kernel
  rw [h, hwithout] at hname
  cases hname

end SuiteLint.Name
