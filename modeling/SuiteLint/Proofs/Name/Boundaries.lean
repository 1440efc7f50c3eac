import Mathlib.Data.List.Basic
import SuiteLint.Proofs.Name.Words

/-!
# Where a name is cut

The words of a name are told by positions: a word is a stretch of letters and numbers that is cut at
none of its positions and that cannot be made longer (`IsWord`). Cutting works from the right, so
what it makes of the end of a name depends on the character before it only, and the induction is on
that end behind any front (`exists_cutsInto`).

The same words come out of one pass from left to right that keeps the word under way (`onePass`).
It looks back one position whenever a capital meets such a word. That there is a position to look
back at, and a letter or number on it, is the invariant of the pass: a word is under way exactly
behind a letter or number (`Pass.Tied`, `Pass.run_eq`).
-/

namespace SuiteLint.Name

open Text

/-! ## Positions -/

variable {cs : List Char}

/-- A letter or number stands at a position. -/
def HasAlnum (cs : List Char) (i : Nat) : Prop := ∃ c, cs[i]? = some c ∧ isAlphanumeric c = true

/-- The cuts inside a stretch of letters and numbers: before a capital behind something else, and
before the last capital in front of a small letter. -/
def CutBefore (cs : List Char) : Nat → Prop
  | 0 => False
  | j + 1 => ∃ p c, cs[j]? = some p ∧ cs[j + 1]? = some c
      ∧ isAlphanumeric p = true ∧ isAlphanumeric c = true ∧ isUppercase c = true
      ∧ (isUppercase p = false ∨ ∃ d, cs[j + 2]? = some d ∧ isLowercase d = true)

/-- The positions from `a` up to, but without, `b` are a word. -/
structure IsWord (cs : List Char) (a b : Nat) : Prop where
  lt : a < b
  alnum : ∀ i, a ≤ i → i < b → HasAlnum cs i
  uncut : ∀ i, a < i → i < b → ¬CutBefore cs i
  opens : ∀ j, a = j + 1 → HasAlnum cs j → CutBefore cs a
  closes : HasAlnum cs b → CutBefore cs b

/-- A position goes on with the word of the position before it. -/
def Continues (cs : List Char) : Nat → Prop
  | 0 => False
  | j + 1 => HasAlnum cs j ∧ HasAlnum cs (j + 1) ∧ ¬CutBefore cs (j + 1)

theorem Continues.hasAlnum {i : Nat} (h : Continues cs i) : HasAlnum cs i := by
  cases i with
  | zero => exact h.elim
  | succ j => exact h.2.1

theorem IsWord.continues {a b : Nat} (h : IsWord cs a b) {i : Nat} (hai : a < i) (hib : i < b) :
    Continues cs i := by
  obtain ⟨j, rfl⟩ : ∃ j, i = j + 1 := ⟨i - 1, by omega⟩
  exact ⟨h.alnum j (by omega) (by omega), h.alnum _ (by omega) hib, h.uncut _ hai hib⟩

theorem IsWord.not_continues_start {a b : Nat} (h : IsWord cs a b) : ¬Continues cs a := by
  intro hcontinues
  cases a with
  | zero => exact hcontinues
  | succ j => exact hcontinues.2.2 (h.opens j rfl hcontinues.1)

theorem IsWord.not_continues_stop {a b : Nat} (h : IsWord cs a b) : ¬Continues cs b := by
  intro hcontinues
  have hcut := h.closes hcontinues.hasAlnum
  cases b with
  | zero => exact hcontinues
  | succ j => exact hcontinues.2.2 hcut

/-- A word starts at a letter or number that goes on with nothing, and ends where nothing goes on
with it. -/
theorem isWord_of_continues {a b : Nat} (hlt : a < b) (hstart : HasAlnum cs a)
    (hopens : ¬Continues cs a) (hinside : ∀ i, a < i → i < b → Continues cs i)
    (hcloses : ¬Continues cs b) : IsWord cs a b := by
  have halnum : ∀ i, a ≤ i → i < b → HasAlnum cs i := by
    intro i hai hib
    rcases Nat.eq_or_lt_of_le hai with rfl | hai
    · exact hstart
    · exact (hinside i hai hib).hasAlnum
  refine ⟨hlt, halnum, ?_, ?_, ?_⟩
  · intro i hai hib hcut
    have hcontinues := hinside i hai hib
    cases i with
    | zero => exact hcontinues
    | succ j => exact hcontinues.2.2 hcut
  · rintro j rfl hbefore
    by_contra hcut
    exact hopens ⟨hbefore, hstart, hcut⟩
  · intro hstop
    by_contra hcut
    obtain ⟨j, rfl⟩ : ∃ j, b = j + 1 := ⟨b - 1, by omega⟩
    exact hcloses ⟨halnum j (by omega) (by omega), hstop, hcut⟩

theorem IsWord.stop_unique {a b b' : Nat} (h : IsWord cs a b) (h' : IsWord cs a b') : b = b' := by
  rcases Nat.lt_trichotomy b b' with hlt | heq | hlt
  · exact (h.not_continues_stop (h'.continues h.lt hlt)).elim
  · exact heq
  · exact (h'.not_continues_stop (h.continues h'.lt hlt)).elim

/-! ## All words from a position on -/

/-- The words that start at a position or behind it, in their order. -/
structure ListsFrom (cs : List Char) (i : Nat) (spans : List (Nat × Nat)) : Prop where
  ordered : spans.Pairwise fun s t => s.2 ≤ t.1
  members : ∀ a b, (a, b) ∈ spans ↔ i ≤ a ∧ IsWord cs a b

theorem listsFrom_length (cs : List Char) : ListsFrom cs cs.length [] := by
  refine ⟨.nil, fun a b => ?_⟩
  simp only [List.not_mem_nil, false_iff, not_and]
  intro ha hword
  obtain ⟨c, hc, -⟩ := hword.alnum a (Nat.le_refl a) hword.lt
  rw [List.getElem?_eq_none ha] at hc
  cases hc

/-- Positions at which no word starts can be put in front. -/
theorem ListsFrom.extend {i e : Nat} {spans : List (Nat × Nat)} (h : ListsFrom cs e spans)
    (hle : i ≤ e) (hnone : ∀ j, i ≤ j → j < e → ¬HasAlnum cs j ∨ Continues cs j) :
    ListsFrom cs i spans := by
  refine ⟨h.ordered, fun a b => (h.members a b).trans ⟨?_, ?_⟩⟩
  · rintro ⟨hea, hword⟩
    exact ⟨Nat.le_trans hle hea, hword⟩
  · rintro ⟨hia, hword⟩
    refine ⟨?_, hword⟩
    by_contra hlt
    rcases hnone a hia (by omega) with hnot | hcontinues
    · exact hnot (hword.alnum a (Nat.le_refl a) hword.lt)
    · exact hword.not_continues_start hcontinues

/-- A word can be put in front of those that start at its end or behind it. -/
theorem ListsFrom.cons {i e : Nat} {spans : List (Nat × Nat)} (h : ListsFrom cs e spans)
    (hword : IsWord cs i e) : ListsFrom cs i ((i, e) :: spans) := by
  have hrest : ListsFrom cs (i + 1) spans :=
    h.extend hword.lt fun j hij hje => Or.inr (hword.continues hij hje)
  refine ⟨List.pairwise_cons.mpr ⟨?_, h.ordered⟩, fun a b => ?_⟩
  · rintro ⟨a, b⟩ hmem
    exact ((h.members a b).mp hmem).1
  · rw [List.mem_cons, hrest.members, Prod.mk.injEq]
    constructor
    · rintro (⟨rfl, rfl⟩ | ⟨hia, hab⟩)
      · exact ⟨Nat.le_refl a, hword⟩
      · exact ⟨by omega, hab⟩
    · rintro ⟨hia, hab⟩
      rcases Nat.eq_or_lt_of_le hia with rfl | hia
      · exact Or.inl ⟨rfl, hab.stop_unique hword⟩
      · exact Or.inr ⟨hia, hab⟩

/-! ## Cutting behind a front -/

/-- The letter or number that a text ends in. -/
def lastAlnum? (cs : List Char) : Option Char := cs.getLast?.filter isAlphanumeric

section Front

variable {before rest : List Char} {c : Char}

theorem hasAlnum_at :
    HasAlnum (before ++ c :: rest) before.length ↔ isAlphanumeric c = true := by
  have hat : (before ++ c :: rest)[before.length]? = some c := by simp
  simp only [HasAlnum, hat, Option.some.injEq, exists_eq_left']

theorem lastAlnum?_append_singleton (h : isAlphanumeric c = true) :
    lastAlnum? (before ++ [c]) = some c := by
  simp [lastAlnum?, h]

theorem lastAlnum?_append_other (h : isAlphanumeric c = false) :
    lastAlnum? (before ++ [c]) = none := by
  simp [lastAlnum?, h]

/-- The test that cutting makes between two characters is the one for positions. -/
theorem cutBefore_at {p : Char} (hp : isAlphanumeric p = true) (hc : isAlphanumeric c = true) :
    CutBefore (before ++ p :: c :: rest) (before.length + 1)
      ↔ startsWord p c rest.head? = true := by
  have hat : (before ++ p :: c :: rest)[before.length]? = some p := by simp
  have hnext : (before ++ p :: c :: rest)[before.length + 1]? = some c := by simp
  have hbehind : (before ++ p :: c :: rest)[before.length + 2]? = rest.head? := by
    rw [List.getElem?_append_right (by omega), List.head?_eq_getElem?]
    simp
  simp only [CutBefore, hat, hnext, hbehind, Option.some.injEq, startsWord, Bool.and_eq_true,
    Bool.or_eq_true, Bool.not_eq_true', Option.any_eq_true, exists_and_left, exists_eq_left', hp,
    hc, true_and]

theorem continues_at :
    Continues (before ++ c :: rest) before.length ↔
      isAlphanumeric c = true ∧ ∃ p, lastAlnum? before = some p
        ∧ startsWord p c rest.head? = false := by
  rcases List.eq_nil_or_concat before with rfl | ⟨front, p, rfl⟩
  · simp [Continues, lastAlnum?]
  · have hcs : front.concat p ++ c :: rest = front ++ p :: c :: rest := by simp
    have hlength : (front.concat p).length = front.length + 1 := by simp
    have hat : HasAlnum (front.concat p ++ c :: rest) (front.concat p).length
        ↔ isAlphanumeric c = true := hasAlnum_at
    rw [hcs, hlength] at hat
    rw [hcs, hlength, Continues, hasAlnum_at, hat, List.concat_eq_append]
    cases hp : isAlphanumeric p with
    | false => simp [lastAlnum?_append_other hp]
    | true =>
        cases hc : isAlphanumeric c with
        | false => simp
        | true => simp [lastAlnum?_append_singleton hp, cutBefore_at hp hc]

end Front

/-- How the characters `rest` from position `i` on are cut behind `prev`: into a piece that goes on
with the word of `prev`, if there is one, and the words behind that piece. -/
structure CutsInto (cs : List Char) (i : Nat) (prev : Option Char) (rest piece : List Char)
    (pieces : List (List Char)) (spans : List (Nat × Nat)) : Prop where
  cut : cut prev rest = piece :: pieces
  behind : cs.drop i = rest
  front : piece <+: rest
  first : piece ≠ [] → HasAlnum cs i
  joins : piece ≠ [] → prev.isSome = true → Continues cs i
  inside : ∀ k, 0 < k → k < piece.length → Continues cs (i + k)
  stops : ¬Continues cs (i + piece.length)
  lists : ListsFrom cs (i + piece.length) spans
  words : wordsOf pieces = spans.map fun s => cs.extract s.1 s.2

namespace CutsInto

variable {i : Nat} {prev : Option Char} {rest piece : List Char} {pieces : List (List Char)}
  {spans : List (Nat × Nat)}

theorem extract (h : CutsInto cs i prev rest piece pieces spans) :
    cs.extract i (i + piece.length) = piece := by
  obtain ⟨more, hmore⟩ := h.front
  rw [List.extract_eq_take_drop, h.behind, ← hmore]
  simp

theorem isWord (h : CutsInto cs i prev rest piece pieces spans) (hne : piece ≠ [])
    (hopens : ¬Continues cs i) : IsWord cs i (i + piece.length) := by
  have hlength := List.length_pos_iff.mpr hne
  refine isWord_of_continues (by omega) (h.first hne) hopens ?_ h.stops
  intro j hlow hhigh
  obtain ⟨k, rfl⟩ := Nat.exists_eq_add_of_lt hlow
  exact h.inside (k + 1) (by omega) (by omega)

/-- Where no word goes on, the piece is empty or a word of its own, and with it all words from the
position on are there. -/
theorem all (h : CutsInto cs i prev rest piece pieces spans) (hopens : ¬Continues cs i) :
    ∃ spans', ListsFrom cs i spans'
      ∧ wordsOf (piece :: pieces) = spans'.map fun s => cs.extract s.1 s.2 := by
  cases piece with
  | nil => exact ⟨spans, h.lists, h.words⟩
  | cons c tail =>
      refine ⟨_, h.lists.cons (h.isWord (List.cons_ne_nil c tail) hopens), ?_⟩
      rw [wordsOf_cons_cons, h.words, List.map_cons, h.extract]

/-- Cutting right at a position where no word goes on. -/
theorem ofEmpty (hcut : Name.cut prev rest = [] :: pieces) (hbehind : cs.drop i = rest)
    (hstops : ¬Continues cs i) (hlists : ListsFrom cs i spans)
    (hwords : wordsOf pieces = spans.map fun s => cs.extract s.1 s.2) :
    CutsInto cs i prev rest [] pieces spans where
  cut := hcut
  behind := hbehind
  front := List.nil_prefix
  first hne := (hne rfl).elim
  joins hne := (hne rfl).elim
  inside k _ hk := (Nat.not_lt_zero k hk).elim
  stops := hstops
  lists := hlists
  words := hwords

/-- A letter or number goes to the front of the piece behind it. -/
theorem push {c : Char} (h : CutsInto cs (i + 1) (some c) rest piece pieces spans)
    (hc : HasAlnum cs i) (hbehind : cs.drop i = c :: rest)
    (hcut : Name.cut prev (c :: rest) = (c :: piece) :: pieces)
    (hjoins : prev.isSome = true → Continues cs i) :
    CutsInto cs i prev (c :: rest) (c :: piece) pieces spans := by
  have hend : i + (c :: piece).length = i + 1 + piece.length := by
    rw [List.length_cons]
    omega
  refine ⟨hcut, hbehind, (List.prefix_cons_inj c).mpr h.front, fun _ => hc, fun _ => hjoins, ?_, ?_,
    ?_, h.words⟩
  · intro k hpos hk
    obtain ⟨k, rfl⟩ := Nat.exists_eq_succ_of_ne_zero (Nat.ne_of_gt hpos)
    have hne : piece ≠ [] := by
      rintro rfl
      simp at hk
    rcases Nat.eq_zero_or_pos k with rfl | hk'
    · exact h.joins hne rfl
    · have hinside := h.inside k hk' (by simpa using hk)
      rwa [Nat.add_right_comm] at hinside
  · rw [hend]
    exact h.stops
  · rw [hend]
    exact h.lists

end CutsInto

/-- The end of a text is cut by positions, whatever stands in front of it. -/
theorem exists_cutsInto (before rest : List Char) :
    ∃ piece pieces spans,
      CutsInto (before ++ rest) before.length (lastAlnum? before) rest piece pieces spans := by
  induction rest generalizing before with
  | nil =>
      have hstops : ¬Continues (before ++ []) before.length := by
        intro hcontinues
        obtain ⟨c, hc, -⟩ := hcontinues.hasAlnum
        simp at hc
      have hlists : ListsFrom (before ++ []) before.length [] := by
        simpa using listsFrom_length before
      exact ⟨[], [], [], .ofEmpty rfl (by simp) hstops hlists rfl⟩
  | cons c rest ih =>
      obtain ⟨piece, pieces, spans, h⟩ := ih (before ++ [c])
      have hcs : before ++ [c] ++ rest = before ++ c :: rest := by simp
      have hlength : (before ++ [c]).length = before.length + 1 := by simp
      have hbehind : (before ++ c :: rest).drop before.length = c :: rest := by simp
      rw [hcs, hlength] at h
      cases hc : isAlphanumeric c with
      | false =>
          have hgap : ¬HasAlnum (before ++ c :: rest) before.length := by
            rw [hasAlnum_at, hc]
            exact Bool.false_ne_true
          rw [lastAlnum?_append_other hc] at h
          obtain ⟨spans', hlists, hwords⟩ := h.all fun hcontinues => hgap hcontinues.1
          rw [← h.cut] at hwords
          have hlists' : ListsFrom (before ++ c :: rest) before.length spans' := by
            refine hlists.extend (Nat.le_succ _) fun j hlow hhigh => Or.inl ?_
            obtain rfl : j = before.length := by omega
            exact hgap
          exact ⟨[], _, spans', .ofEmpty (cut_cons_of_not_isAlphanumeric hc _ _) hbehind
            (fun hcontinues => hgap hcontinues.hasAlnum) hlists' hwords⟩
      | true =>
          have hat : HasAlnum (before ++ c :: rest) before.length := hasAlnum_at.mpr hc
          rw [lastAlnum?_append_singleton hc] at h
          have hcut := cut_cons_of_isAlphanumeric hc (lastAlnum? before) h.cut
          cases hstarts : (lastAlnum? before).any fun p => startsWord p c rest.head? with
          | false =>
              rw [hstarts, if_neg Bool.false_ne_true] at hcut
              refine ⟨_, _, _, h.push hat hbehind hcut fun hsome => continues_at.mpr ⟨hc, ?_⟩⟩
              obtain ⟨p, hp⟩ := Option.isSome_iff_exists.mp hsome
              rw [hp] at hstarts
              exact ⟨p, hp, hstarts⟩
          | true =>
              -- The word that starts here is the same as at the beginning of a text.
              rw [hstarts, if_pos rfl] at hcut
              have hopens : ¬Continues (before ++ c :: rest) before.length := by
                rw [continues_at]
                rintro ⟨-, p, hp, hgoes⟩
                rw [hp] at hstarts
                exact Bool.false_ne_true (hgoes.symm.trans hstarts)
              have hfresh := cut_cons_of_isAlphanumeric hc none h.cut
              obtain ⟨spans', hlists, hwords⟩ :=
                (h.push hat hbehind hfresh fun hsome => by cases hsome).all hopens
              exact ⟨[], _, spans', .ofEmpty hcut hbehind hopens hlists hwords⟩

theorem exists_rawWords_spans (cs : List Char) :
    ∃ spans, ListsFrom cs 0 spans
      ∧ rawWords cs = spans.map fun s => cs.extract s.1 s.2 := by
  obtain ⟨piece, pieces, spans, h⟩ := exists_cutsInto [] cs
  have hcut : cut none cs = piece :: pieces := h.cut
  obtain ⟨spans', hlists, hwords⟩ := h.all id
  refine ⟨spans', hlists, ?_⟩
  rw [rawWords_eq, hcut]
  exact hwords

/-! ## Nothing is lost -/

theorem flatten_cut (prev : Option Char) (cs : List Char) :
    (cut prev cs).flatten = cs.filter isAlphanumeric := by
  induction cs generalizing prev with
  | nil => rfl
  | cons c rest ih =>
      cases hc : isAlphanumeric c with
      | false =>
          rw [cut_cons_of_not_isAlphanumeric hc, List.flatten_cons, ih, List.nil_append,
            List.filter_cons_of_neg (by simp [hc])]
      | true =>
          obtain ⟨piece, pieces, hrest⟩ := exists_cut (some c) rest
          have hflat := ih (some c)
          rw [hrest, List.flatten_cons] at hflat
          rw [cut_cons_of_isAlphanumeric hc prev hrest, List.filter_cons_of_pos hc, ← hflat]
          split <;> rfl

theorem flatten_rawWords (cs : List Char) : (rawWords cs).flatten = cs.filter isAlphanumeric :=
  List.flatten_filter_not_isEmpty.trans (flatten_cut none cs)

theorem lower_ne_nil (c : Char) : lower c ≠ [] := by
  rw [lower, lowerWide]
  split
  · exact List.cons_ne_nil _ _
  · split
    · exact List.cons_ne_nil _ _
    · split <;> exact List.cons_ne_nil _ _

theorem isEmpty_flatMap_lower (w : List Char) : (w.flatMap lower).isEmpty = w.isEmpty := by
  cases w with
  | nil => rfl
  | cons c w => simp [lower_ne_nil]

theorem wordsOf_map_lower (pieces : List (List Char)) :
    wordsOf (pieces.map (·.flatMap lower)) = (wordsOf pieces).map (·.flatMap lower) := by
  simp only [wordsOf, List.filter_map, Function.comp_def, isEmpty_flatMap_lower]

theorem ne_empty_of_mem_words {name w : String} (h : w ∈ words name) : w ≠ "" := by
  obtain ⟨raw, hraw, rfl⟩ := List.mem_map.mp h
  have hne : raw.isEmpty = false := by simpa using (List.mem_filter.mp hraw).2
  rw [← isEmpty_flatMap_lower] at hne
  intro hempty
  rw [String.ofList_eq_empty_iff.mp hempty] at hne
  cases hne

theorem join_words (name : String) :
    String.join (words name)
      = String.ofList ((name.toList.filter isAlphanumeric).flatMap lower) := by
  rw [← String.toList_inj, String.toList_join, String.toList_ofList, ← flatten_rawWords, words,
    List.flatMap_map, List.flatten_eq_flatMap, List.flatMap_assoc]
  simp only [String.toList_ofList, id]

/-! ## One pass -/

/-- A pass over a name: the word under way, in lower case, and the words that are done. -/
structure Pass where
  word : List Char := []
  done : List (List Char) := []

/-- The character before a position. There is none before the first. -/
def charBefore? (cs : List Char) : Nat → Option Char
  | 0 => none
  | i + 1 => cs[i]?

namespace Pass

/-- Ends the word under way, if there is one. -/
def flush (s : Pass) : Pass := if s.word.isEmpty then s else ⟨[], s.done ++ [s.word]⟩

/-- Goes on with the word under way, or starts one. -/
def push (s : Pass) (c : Char) : Pass := { s with word := s.word ++ lower c }

/-- The step at position `i`. A capital that meets a word under way asks for the character before
it, and the step fails if there is none. -/
def step (cs : List Char) (s : Pass) (i : Nat) (c : Char) : Option Pass :=
  if !isAlphanumeric c then some s.flush
  else if isUppercase c && !s.word.isEmpty then
    (charBefore? cs i).map fun prev =>
      if !isUppercase prev || cs[i + 1]?.any isLowercase then s.flush.push c else s.push c
  else some (s.push c)

/-- The steps at the characters from position `i` on. -/
def run (cs : List Char) (s : Pass) (i : Nat) : List Char → Option Pass
  | [] => some s.flush
  | c :: rest => (s.step cs i c).bind fun s' => s'.run cs (i + 1) rest

end Pass

/-- The words of a name by one pass from left to right. -/
def onePass (name : String) : Option (List String) :=
  (Pass.run name.toList {} 0 name.toList).map fun s => s.done.map String.ofList

section

variable {before rest : List Char} {c : Char} {s : Pass}

theorem charBefore?_append (before rest : List Char) :
    charBefore? (before ++ rest) before.length = before.getLast? := by
  rcases List.eq_nil_or_concat before with rfl | ⟨front, p, rfl⟩
  · rfl
  · have hlength : (front.concat p).length = front.length + 1 := by simp
    rw [hlength, charBefore?]
    simp

namespace Pass

theorem flush_word (s : Pass) : s.flush.word = [] := by
  rw [flush]
  split
  · exact List.isEmpty_iff.mp ‹_›
  · rfl

theorem flush_done (s : Pass) : s.flush.done = s.done ++ wordsOf [s.word] := by
  rw [flush]
  cases hword : s.word with
  | nil => simp [wordsOf]
  | cons c w => rfl

/-- A word is under way exactly behind a letter or number. -/
def Tied (s : Pass) (before : List Char) : Prop :=
  s.word.isEmpty = (lastAlnum? before).isNone

theorem tied_push (hc : isAlphanumeric c = true) : (s.push c).Tied (before ++ [c]) := by
  simp [Tied, push, lastAlnum?_append_singleton hc, lower_ne_nil]

theorem tied_flush (hc : isAlphanumeric c = false) : s.flush.Tied (before ++ [c]) := by
  simp [Tied, flush_word, lastAlnum?_append_other hc]

/-- Under the invariant a step does not fail, and it ends the word under way where a name is cut. -/
theorem step_of_tied (h : s.Tied before) (hc : isAlphanumeric c = true) :
    s.step (before ++ c :: rest) before.length c
      = some (if (lastAlnum? before).any fun p => startsWord p c rest.head? then s.flush.push c
          else s.push c) := by
  rw [step, hc]
  rw [Tied] at h
  cases hprev : lastAlnum? before with
  | none =>
      rw [hprev] at h
      simp [h]
  | some p =>
      have hlast : before.getLast? = some p := (Option.filter_eq_some_iff.mp hprev).1
      have hnext : (before ++ c :: rest)[before.length + 1]? = rest.head? := by
        rw [List.getElem?_append_right (by omega), List.head?_eq_getElem?]
        simp
      rw [hprev] at h
      rw [charBefore?_append, hlast, hnext]
      cases hcapital : isUppercase c <;> simp [h, startsWord, hcapital]

theorem wordsOf_cons (piece : List Char) (pieces : List (List Char)) :
    wordsOf (piece :: pieces) = wordsOf [piece] ++ wordsOf pieces := by
  rw [wordsOf, wordsOf, wordsOf, ← List.filter_append, List.singleton_append]

/-- A pass gives the words that are done, the word under way with the piece that goes on with it,
and the words behind. -/
theorem run_eq (h : s.Tied before) {piece : List Char} {pieces : List (List Char)}
    (hcut : cut (lastAlnum? before) rest = piece :: pieces) :
    (s.run (before ++ rest) before.length rest).map Pass.done
      = some (s.done
          ++ wordsOf ((s.word ++ piece.flatMap lower) :: pieces.map (·.flatMap lower))) := by
  induction rest generalizing before s piece pieces with
  | nil =>
      obtain ⟨rfl, rfl⟩ := List.cons.inj hcut
      simp [run, flush_done]
  | cons c rest ih =>
      have hcs : before ++ c :: rest = before ++ [c] ++ rest := by simp
      have hlength : before.length + 1 = (before ++ [c]).length := by simp
      cases hc : isAlphanumeric c with
      | false =>
          have hstep : s.step (before ++ c :: rest) before.length c = some s.flush := by
            simp [step, hc]
          rw [cut_cons_of_not_isAlphanumeric hc] at hcut
          obtain ⟨rfl, rfl⟩ := List.cons.inj hcut
          obtain ⟨piece, pieces, hrest⟩ := exists_cut (lastAlnum? (before ++ [c])) rest
          rw [run, hstep, Option.bind_some, hcs, hlength, ih (tied_flush hc) hrest, flush_word,
            flush_done, wordsOf_cons (s.word ++ _)]
          rw [lastAlnum?_append_other hc] at hrest
          simp [hrest]
      | true =>
          obtain ⟨piece', pieces', hrest⟩ := exists_cut (lastAlnum? (before ++ [c])) rest
          have hrest' := hrest
          rw [lastAlnum?_append_singleton hc] at hrest'
          rw [cut_cons_of_isAlphanumeric hc _ hrest'] at hcut
          rw [run, step_of_tied h hc, Option.bind_some, hcs, hlength]
          split at hcut
          · rename_i hstarts
            obtain ⟨rfl, rfl⟩ := List.cons.inj hcut
            rw [if_pos hstarts, ih (tied_push hc) hrest, push, flush_word, flush_done,
              wordsOf_cons (s.word ++ _)]
            simp
          · rename_i hgoes
            obtain ⟨rfl, rfl⟩ := List.cons.inj hcut
            rw [if_neg hgoes, ih (tied_push hc) hrest]
            simp [push]

end Pass

end

/-- A pass does not fail, and gives the words of the name. -/
theorem onePass_eq_words (name : String) : onePass name = some (words name) := by
  obtain ⟨piece, pieces, hcut⟩ := exists_cut (lastAlnum? []) name.toList
  have hraw : rawWords name.toList = wordsOf (piece :: pieces) := congrArg wordsOf hcut
  have hstart : Pass.Tied {} [] := rfl
  have hrun : (Pass.run name.toList {} 0 name.toList).map Pass.done
      = some ((rawWords name.toList).map (·.flatMap lower)) := by
    rw [hraw, ← wordsOf_map_lower]
    exact Pass.run_eq hstart hcut
  calc onePass name
      = ((Pass.run name.toList {} 0 name.toList).map Pass.done).map (List.map String.ofList) :=
        (Option.map_map ..).symm
    _ = some (words name) := by
        rw [hrun, words, Option.map_some, List.map_map]
        rfl

/-- **A name is cut at its boundaries, and nothing is lost.** The words are the stretches of letters
and numbers between the cuts, in their order and in lower case. None of them is empty, and put
together they are the letters and numbers of the name in lower case. One pass from left to right
finds the same words and never looks back from the first position. -/
theorem words_by_boundaries (name : String) :
    (∃ spans : List (Nat × Nat), spans.Pairwise (fun s t => s.2 ≤ t.1)
      ∧ (∀ a b, (a, b) ∈ spans ↔ IsWord name.toList a b)
      ∧ words name
        = spans.map fun s => String.ofList ((name.toList.extract s.1 s.2).flatMap lower))
    ∧ (∀ w ∈ words name, w ≠ "")
    ∧ String.join (words name)
      = String.ofList ((name.toList.filter isAlphanumeric).flatMap lower)
    ∧ onePass name = some (words name) := by
  refine ⟨?_, fun w => ne_empty_of_mem_words, join_words name, onePass_eq_words name⟩
  obtain ⟨spans, hlists, hraw⟩ := exists_rawWords_spans name.toList
  refine ⟨spans, hlists.ordered, fun a b => ?_, ?_⟩
  · rw [hlists.members]
    exact and_iff_right (Nat.zero_le a)
  · rw [words, hraw, List.map_map]
    rfl

end SuiteLint.Name
