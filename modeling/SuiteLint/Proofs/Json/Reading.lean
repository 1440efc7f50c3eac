import SuiteLint.Proofs.Json.Grammar

/-!
# Reading JSON

A reader for JSON texts, and that it gives every text of the grammar its value
(`parse?_of_isText`). So a text has at most one value.
-/

namespace SuiteLint.Json

/-! ## The reader -/

def skip (s : List Char) : List Char := s.dropWhile isBlank

def readDigits (s : List Char) : Option (List Char × List Char) :=
  match s.takeWhile Char.isDigit with
  | [] => none
  | d :: ds => some (d :: ds, s.dropWhile Char.isDigit)

def readWhole : List Char → Option (List Char × List Char)
  | '0' :: s => some (['0'], s)
  | s => readDigits s

def readFraction : List Char → Option (List Char × List Char)
  | '.' :: s => readDigits s
  | s => some ([], s)

def readPower : List Char → Option (Int × List Char)
  | '+' :: s => (readDigits s).map fun (ds, t) => (Nat.ofDigitChars 10 ds 0, t)
  | '-' :: s => (readDigits s).map fun (ds, t) => (-Nat.ofDigitChars 10 ds 0, t)
  | s => (readDigits s).map fun (ds, t) => (Nat.ofDigitChars 10 ds 0, t)

def readExponent : List Char → Option (Int × List Char)
  | 'e' :: s => readPower s
  | 'E' :: s => readPower s
  | s => some (0, s)

def readMagnitude (s : List Char) : Option ((Nat × Int) × List Char) := do
  let (ws, s) ← readWhole s
  let (fs, s) ← readFraction s
  let (x, s) ← readExponent s
  return ((Nat.ofDigitChars 10 (ws ++ fs) 0, x - fs.length), s)

def readNumeral : List Char → Option (Value × List Char)
  | '-' :: s => (readMagnitude s).map fun ((m, x), t) => (.number (-m) x, t)
  | s => (readMagnitude s).map fun ((m, x), t) => (.number m x, t)

def readCharacters : List Char → Option (List Char × List Char)
  | [] => none
  | '\\' :: 'u' :: a :: b :: c :: d :: s =>
    match unit? a b c d with
    | none => none
    | some u =>
      if u.isValidChar then (readCharacters s).map fun (cs, t) => (Char.ofNat u :: cs, t)
      else match s with
        | '\\' :: 'u' :: a' :: b' :: c' :: d' :: s' =>
          match unit? a' b' c' d' with
          | none => none
          | some low =>
            if IsPair u low then (readCharacters s').map fun (cs, t) => (pairChar u low :: cs, t)
            else none
        | _ => none
  | '\\' :: e :: s =>
    match short? e with
    | none => none
    | some c => (readCharacters s).map fun (cs, t) => (c :: cs, t)
  | c :: s =>
    if c = '"' then some ([], s)
    else if c = '\\' ∨ c.toNat < 32 then none
    else (readCharacters s).map fun (cs, t) => (c :: cs, t)

def readQuoted : List Char → Option (String × List Char)
  | '"' :: s => (readCharacters s).map fun (cs, t) => (String.ofList cs, t)
  | _ => none

section Sequences

variable {α : Type} (item : List Char → Option (α × List Char)) (close : Char)

/-- At most as many items as there are characters. -/
def readItems : Nat → List Char → Option (List α × List Char)
  | 0, _ => none
  | n + 1, s => do
    let (x, s) ← item s
    match skip s with
    | [] => none
    | c :: s =>
      if c = close then some ([x], s)
      else if c = ',' then (readItems n (skip s)).map fun (xs, t) => (x :: xs, t)
      else none

def readBracketed (n : Nat) (s : List Char) : Option (List α × List Char) :=
  match skip s with
  | [] => none
  | c :: s => if c = close then some ([], s) else readItems item close n (c :: s)

end Sequences

def readMember (value : List Char → Option (Value × List Char)) (s : List Char) :
    Option ((String × Value) × List Char) := do
  let (key, s) ← readQuoted s
  match skip s with
  | ':' :: s => (value (skip s)).map fun (v, t) => ((key, v), t)
  | _ => none

/-- A value, which may be nested as deep as the text is long. -/
def readValue : Nat → List Char → Option (Value × List Char)
  | 0, _ => none
  | n + 1, s =>
    match s with
    | 'n' :: 'u' :: 'l' :: 'l' :: s => some (.null, s)
    | 't' :: 'r' :: 'u' :: 'e' :: s => some (.bool true, s)
    | 'f' :: 'a' :: 'l' :: 's' :: 'e' :: s => some (.bool false, s)
    | '"' :: s => (readQuoted ('"' :: s)).map fun (string, t) => (.text string, t)
    | '[' :: s => (readBracketed (readValue n) ']' n s).map fun (vs, t) => (.list vs, t)
    | '\x7b' :: s =>
      (readBracketed (readMember (readValue n)) '\x7d' n s).map fun (ms, t) => (.object ms, t)
    | s => readNumeral s

/-- The value of a JSON text, if it is one. -/
def parse? (text : String) : Option Value := do
  let (v, s) ← readValue text.toList.length (skip text.toList)
  if skip s = [] then some v else none

/-! ## Blanks and what may stand behind a value -/

/-- The text cannot carry a number further. -/
def Stops (t : List Char) : Prop :=
  ∀ c ∈ t.head?, c.isDigit = false ∧ c ≠ '.' ∧ c ≠ 'e' ∧ c ≠ 'E'

/-- The text starts with a token, and not with one that closes a bracket. -/
def Opens (s : List Char) : Prop :=
  ∃ c t, s = c :: t ∧ isBlank c = false ∧ c ≠ ']' ∧ c ≠ '\x7d'

theorem Blanks.length_le {s t : List Char} (h : Blanks s t) : t.length ≤ s.length := by
  induction h with
  | none => exact Nat.le_refl _
  | more _ _ ih => exact Nat.le_succ_of_le ih

theorem Blanks.skip_eq {s t : List Char} (h : Blanks s t) : skip s = skip t := by
  induction h with
  | none => rfl
  | more hc _ ih => simpa [skip, hc] using ih

theorem Blanks.skip_eq_cons {s t : List Char} {c : Char} (h : Blanks s (c :: t))
    (hc : isBlank c = false) : skip s = c :: t := by
  rw [h.skip_eq, skip, List.dropWhile_cons_of_neg (by simp [hc])]

theorem Opens.skip_eq {s t : List Char} (hopen : Opens t) (h : Blanks s t) : skip s = t := by
  obtain ⟨c, r, rfl, hc, -⟩ := hopen
  exact h.skip_eq_cons hc

theorem isBlank_cases {c : Char} (h : isBlank c = true) :
    c = ' ' ∨ c = '\t' ∨ c = '\n' ∨ c = '\r' := by
  simpa [isBlank, or_assoc] using h

theorem Blanks.stops {s t : List Char} (h : Blanks s t) (ht : Stops t) : Stops s := by
  cases h with
  | none => exact ht
  | more hc _ =>
    intro c hmem
    simp only [List.head?_cons, Option.mem_def, Option.some.injEq] at hmem
    subst hmem
    rcases isBlank_cases hc with rfl | rfl | rfl | rfl <;> decide

/-! ## Numbers -/

theorem readDigits_append {d : Char} {ds t : List Char}
    (hds : ∀ c ∈ d :: ds, c.isDigit = true) (ht : ∀ c ∈ t.head?, c.isDigit = false) :
    readDigits (d :: (ds ++ t)) = some (d :: ds, t) := by
  have hnone : t.takeWhile Char.isDigit = [] ∧ t.dropWhile Char.isDigit = t := by
    cases t with
    | nil => exact ⟨rfl, rfl⟩
    | cons c r => simp [ht c rfl]
  rw [readDigits, ← List.cons_append, List.takeWhile_append_of_pos hds,
    List.dropWhile_append_of_pos hds, hnone.1, hnone.2, List.append_nil]

theorem isDigit_ne {c d : Char} (hc : c.isDigit = true) (hd : d.isDigit = false) : c ≠ d := by
  rintro rfl
  simp [hc] at hd

theorem readPower_of_power {x : Int} {s t : List Char} (h : Power x s t) (ht : Stops t) :
    readPower s = some (x, t) := by
  have hdigit : ∀ c ∈ t.head?, c.isDigit = false := fun c hc => (ht c hc).1
  cases h with
  | @bare d ds _ hds =>
    have hd : d.isDigit = true := hds d (List.mem_cons_self ..)
    have hplus : d ≠ '+' := isDigit_ne hd (by decide)
    have hminus : d ≠ '-' := isDigit_ne hd (by decide)
    simp [readPower, hplus, hminus, readDigits_append hds hdigit]
  | plus hds => simp [readPower, readDigits_append hds hdigit]
  | minus hds => simp [readPower, readDigits_append hds hdigit]

theorem readExponent_of_exponent {x : Int} {s t : List Char} (h : Exponent x s t) (ht : Stops t) :
    readExponent s = some (x, t) := by
  cases h with
  | absent =>
    cases s with
    | nil => rfl
    | cons c r =>
      obtain ⟨-, -, hlower, hupper⟩ := ht c rfl
      simp [readExponent, hlower, hupper]
  | lower hpower => rw [readExponent, readPower_of_power hpower ht]
  | upper hpower => rw [readExponent, readPower_of_power hpower ht]

/-- An exponent does not start like the digits in front of it. -/
theorem Exponent.head_ne {x : Int} {s t : List Char} (h : Exponent x s t) (ht : Stops t) :
    ∀ c ∈ s.head?, c.isDigit = false ∧ c ≠ '.' := by
  intro c hc
  cases h with
  | absent => exact ⟨(ht c hc).1, (ht c hc).2.1⟩
  | lower _ | upper _ =>
    obtain rfl : _ = c := by simpa using hc
    decide

theorem readFraction_of_fraction {fs s t : List Char} (h : Fraction fs s t)
    (ht : ∀ c ∈ t.head?, c.isDigit = false ∧ c ≠ '.') : readFraction s = some (fs, t) := by
  cases h with
  | absent =>
    cases s with
    | nil => rfl
    | cons c r => simp [readFraction, (ht c rfl).2]
  | digits hds => rw [readFraction, readDigits_append hds fun c hc => (ht c hc).1]

theorem Fraction.head_isDigit {fs s t : List Char} (h : Fraction fs s t)
    (ht : ∀ c ∈ t.head?, c.isDigit = false ∧ c ≠ '.') : ∀ c ∈ s.head?, c.isDigit = false := by
  intro c hc
  cases h with
  | absent => exact (ht c hc).1
  | digits _ =>
    obtain rfl : _ = c := by simpa using hc
    decide

theorem readWhole_of_whole {ws s t : List Char} (h : Whole ws s t)
    (ht : ∀ c ∈ t.head?, c.isDigit = false) : readWhole s = some (ws, t) := by
  cases h with
  | zero => rfl
  | @digits d ds _ hzero hd hds =>
    simp [readWhole, hzero, readDigits_append (List.forall_mem_cons.2 ⟨hd, hds⟩) ht]

theorem readMagnitude_of_magnitude {m : Nat} {x : Int} {s t : List Char} (h : Magnitude m x s t)
    (ht : Stops t) : readMagnitude s = some ((m, x), t) := by
  obtain ⟨hwhole, hfraction, hexponent⟩ := h
  have hv := hexponent.head_ne ht
  have hu := hfraction.head_isDigit hv
  simp [readMagnitude, readWhole_of_whole hwhole hu, readFraction_of_fraction hfraction hv,
    readExponent_of_exponent hexponent ht]

theorem Whole.head_isDigit {ws s t : List Char} (h : Whole ws s t) :
    ∃ d r, s = d :: r ∧ d.isDigit = true := by
  cases h with
  | zero => exact ⟨'0', _, rfl, by decide⟩
  | digits _ hd _ => exact ⟨_, _, rfl, hd⟩

theorem Numeral.head {m x : Int} {s t : List Char} (h : Numeral m x s t) :
    ∃ d r, s = d :: r ∧ (d = '-' ∨ d.isDigit = true) := by
  cases h with
  | positive h =>
    obtain ⟨hwhole, -, -⟩ := h
    obtain ⟨d, r, rfl, hd⟩ := hwhole.head_isDigit
    exact ⟨d, r, rfl, .inr hd⟩
  | negative _ => exact ⟨'-', _, rfl, .inl rfl⟩

theorem readNumeral_of_numeral {m x : Int} {s t : List Char} (h : Numeral m x s t)
    (ht : Stops t) : readNumeral s = some (.number m x, t) := by
  cases h with
  | positive h =>
    have hread := readMagnitude_of_magnitude h ht
    obtain ⟨hwhole, -, -⟩ := h
    obtain ⟨d, r, rfl, hd⟩ := hwhole.head_isDigit
    simp [readNumeral, isDigit_ne hd (d := '-') (by decide), hread]
  | negative h => simp [readNumeral, readMagnitude_of_magnitude h ht]

theorem Fraction.length_le {fs s t : List Char} (h : Fraction fs s t) : t.length ≤ s.length := by
  cases h with
  | absent => exact Nat.le_refl _
  | digits _ =>
    simp only [List.length_cons, List.length_append]
    omega

theorem Exponent.length_le {x : Int} {s t : List Char} (h : Exponent x s t) :
    t.length ≤ s.length := by
  cases h with
  | absent => exact Nat.le_refl _
  | lower h | upper h =>
    cases h <;> simp only [List.length_cons, List.length_append] <;> omega

theorem Magnitude.length_lt {m : Nat} {x : Int} {s t : List Char} (h : Magnitude m x s t) :
    t.length < s.length := by
  obtain ⟨hwhole, hfraction, hexponent⟩ := h
  have hu := hfraction.length_le
  have hv := hexponent.length_le
  cases hwhole <;> simp only [List.length_cons, List.length_append] <;> omega

theorem Numeral.length_lt {m x : Int} {s t : List Char} (h : Numeral m x s t) :
    t.length < s.length := by
  cases h with
  | positive h => exact h.length_lt
  | negative h => exact Nat.lt_succ_of_lt h.length_lt

/-! ## Strings -/

theorem IsPair.not_isValidChar {high low : Nat} (h : IsPair high low) : ¬ high.isValidChar := by
  unfold IsPair at h
  unfold Nat.isValidChar
  omega

theorem readCharacters_of_characters {cs s t : List Char} (h : Characters cs s t) :
    readCharacters s = some (cs, t) := by
  induction h with
  | close => simp [readCharacters]
  | plain hc hquote hback _ ih =>
    simp [readCharacters, hquote, hback, Nat.not_lt.2 hc, ih]
  | @short e _ _ _ _ he _ ih =>
    have hu : e ≠ 'u' := by
      rintro rfl
      simp [short?] at he
    simp [readCharacters, he, hu, ih]
  | unit hu hvalid _ ih => simp [readCharacters, hu, hvalid, ih]
  | pair hhigh hlow hpair _ ih =>
    simp [readCharacters, hhigh, hlow, hpair, hpair.not_isValidChar, ih]

theorem readQuoted_of_quoted {string : String} {s t : List Char} (h : Quoted string s t) :
    readQuoted s = some (string, t) := by
  obtain ⟨hchars⟩ := h
  simp [readQuoted, readCharacters_of_characters hchars]

theorem Characters.length_lt {cs s t : List Char} (h : Characters cs s t) :
    t.length < s.length := by
  induction h <;> simp only [List.length_cons] at * <;> omega

theorem Quoted.length_lt {string : String} {s t : List Char} (h : Quoted string s t) :
    t.length < s.length := by
  obtain ⟨hchars⟩ := h
  exact Nat.lt_succ_of_lt hchars.length_lt

theorem Quoted.opens {string : String} {s t : List Char} (h : Quoted string s t) : Opens s := by
  obtain ⟨_⟩ := h
  exact ⟨'"', _, rfl, by decide⟩

/-! ## Lists and objects -/

/-- The reader gives each thing of the grammar back, on texts of at most `n` characters. -/
structure Follows {α : Type} (read : List Char → Option (α × List Char))
    (written : α → List Char → List Char → Prop) (n : Nat) : Prop where
  opens {x : α} {s t : List Char} : written x s t → Opens s
  shortens {x : α} {s t : List Char} :
    written x s t → s.length ≤ n → Stops t → t.length < s.length
  reads {x : α} {s t : List Char} :
    written x s t → s.length ≤ n → Stops t → read s = some (x, t)

/-- A character that closes a list or an object. -/
def IsCloser (c : Char) : Prop := c = ']' ∨ c = '\x7d'

theorem IsCloser.isBlank_eq {c : Char} (h : IsCloser c) : isBlank c = false := by
  rcases h with rfl | rfl <;> decide

theorem IsCloser.ne_comma {c : Char} (h : IsCloser c) : c ≠ ',' := by
  rcases h with rfl | rfl <;> decide

theorem IsCloser.stops {c : Char} (h : IsCloser c) (t : List Char) : Stops (c :: t) := by
  intro d hd
  obtain rfl : c = d := by simpa using hd
  rcases h with rfl | rfl <;> decide

theorem stops_comma (t : List Char) : Stops (',' :: t) := by
  intro c hc
  obtain rfl : ',' = c := by simpa using hc
  decide

section Sequences

variable {α : Type} {item : α → List Char → List Char → Prop}
  {read : List Char → Option (α × List Char)} {close : Char} {n : Nat}

theorem Items.opens (hitem : Follows read item n) {xs : List α} {s t : List Char}
    (h : Items item close xs s t) : Opens s := by
  cases h with
  | last hx _ | more hx _ _ _ => exact hitem.opens hx

theorem Items.read_eq (hitem : Follows read item n) (hclose : IsCloser close) {xs : List α}
    {s t : List Char} (h : Items item close xs s t) (hs : s.length ≤ n) :
    t.length < s.length ∧ ∀ m, s.length ≤ m → readItems read close m s = some (xs, t) := by
  induction h with
  | @last x s u t hx hu =>
    have hstop : Stops u := hu.stops (hclose.stops t)
    have hlt : u.length < s.length := hitem.shortens hx hs hstop
    have hle : (close :: t).length ≤ u.length := hu.length_le
    rw [List.length_cons] at hle
    refine ⟨by omega, ?_⟩
    rintro (_ | m) hm
    · omega
    · simp [readItems, hitem.reads hx hs hstop, hu.skip_eq_cons hclose.isBlank_eq]
  | @more x xs s u v w t hx hu hv hitems ih =>
    have hstop : Stops u := hu.stops (stops_comma v)
    have hlt : u.length < s.length := hitem.shortens hx hs hstop
    have hle : (',' :: v).length ≤ u.length := hu.length_le
    have hle' : w.length ≤ v.length := hv.length_le
    rw [List.length_cons] at hle
    obtain ⟨htail, hread⟩ := ih (by omega)
    refine ⟨by omega, ?_⟩
    rintro (_ | m) hm
    · omega
    · have hskip : skip v = w := (hitems.opens hitem).skip_eq hv
      simp [readItems, hitem.reads hx hs hstop, hu.skip_eq_cons (by decide), hskip,
        hread m (by omega), hclose.ne_comma.symm]

theorem Bracketed.read_eq (hitem : Follows read item n) (hclose : IsCloser close) {xs : List α}
    {s t : List Char} (h : Bracketed item close xs s t) (hs : s.length ≤ n) :
    t.length < s.length ∧ readBracketed read close n s = some (xs, t) := by
  cases h with
  | empty hblanks =>
    refine ⟨hblanks.length_le, ?_⟩
    simp [readBracketed, hblanks.skip_eq_cons hclose.isBlank_eq]
  | @items _ _ u _ hblanks hitems =>
    have hu : u.length ≤ s.length := hblanks.length_le
    obtain ⟨hlt, hread⟩ := hitems.read_eq hitem hclose (by omega)
    refine ⟨by omega, ?_⟩
    have hopen : Opens u := hitems.opens hitem
    rw [readBracketed, hopen.skip_eq hblanks]
    obtain ⟨c, r, rfl, -, hlist, hobject⟩ := hopen
    have hne : c ≠ close := by
      rcases hclose with rfl | rfl
      · exact hlist
      · exact hobject
    simp only [hne, if_false]
    exact hread n (by omega)

end Sequences

/-- The value of a member stands behind its key. -/
theorem Quoted.length_value_lt {key : String} {s u w x : List Char} (hkey : Quoted key s u)
    (hu : Blanks u (':' :: w)) (hw : Blanks w x) : x.length < s.length := by
  have h := hkey.length_lt
  have h' := hu.length_le
  have h'' := hw.length_le
  rw [List.length_cons] at h'
  omega

theorem follows_member {value : Value → List Char → List Char → Prop}
    {read : List Char → Option (Value × List Char)} {n : Nat} (hvalue : Follows read value n) :
    Follows (readMember read) (Member value) n := by
  constructor
  · rintro _ _ _ ⟨hkey, -, -, -⟩
    exact hkey.opens
  · rintro _ _ _ ⟨hkey, hu, hw, hv⟩ hs ht
    have hx := hkey.length_value_lt hu hw
    have hlt := hvalue.shortens hv (by omega) ht
    omega
  · rintro _ _ _ ⟨hkey, hu, hw, hv⟩ hs ht
    have hx := hkey.length_value_lt hu hw
    simp [readMember, readQuoted_of_quoted hkey, hu.skip_eq_cons (by decide),
      (hvalue.opens hv).skip_eq hw, hvalue.reads hv (by omega) ht]

/-! ## Values -/

theorem Numeral.opens {m x : Int} {s t : List Char} (h : Numeral m x s t) : Opens s := by
  obtain ⟨d, r, rfl, rfl | hd⟩ := h.head
  · exact ⟨'-', r, rfl, by decide⟩
  · have hne : ∀ c : Char, c.isDigit = false → d ≠ c := fun c hc => isDigit_ne hd hc
    refine ⟨d, r, rfl, ?_, hne _ (by decide), hne _ (by decide)⟩
    simp [isBlank, hne ' ', hne '\t', hne '\n', hne '\r']

theorem Written.opens {v : Value} {s t : List Char} (h : Written v s t) : Opens s := by
  cases h with
  | number hnumber => exact hnumber.opens
  | text hquoted => exact hquoted.opens
  | null | yes | no | list _ | object _ => exact ⟨_, _, rfl, by decide⟩

theorem readValue_of_numeral {m x : Int} {s t : List Char} (h : Numeral m x s t) (ht : Stops t)
    (n : Nat) : readValue (n + 1) s = some (.number m x, t) := by
  have hread := readNumeral_of_numeral h ht
  obtain ⟨d, r, rfl, rfl | hd⟩ := h.head
  · simpa [readValue] using hread
  · have hne : ∀ c : Char, c.isDigit = false → d ≠ c := fun c hc => isDigit_ne hd hc
    simp [readValue, hne 'n', hne 't', hne 'f', hne '"', hne '[', hne '\x7b', hread]

/-- A value is read with the reader for what it is made of, which is shorter. -/
theorem Written.read_eq {n : Nat} (ih : Follows (readValue n) Written n) {v : Value}
    {s t : List Char} (h : Written v s t) (hs : s.length ≤ n + 1) (ht : Stops t) :
    readValue (n + 1) s = some (v, t) := by
  cases h with
  | null | yes | no => rfl
  | number hnumber => exact readValue_of_numeral hnumber ht n
  | text hquoted =>
    have hread := readQuoted_of_quoted hquoted
    obtain ⟨hchars⟩ := hquoted
    simp [readValue, hread]
  | list hlist =>
    rw [List.length_cons] at hs
    simp [readValue, (hlist.read_eq ih (.inl rfl) (by omega)).2]
  | object hobject =>
    rw [List.length_cons] at hs
    simp [readValue, (hobject.read_eq (follows_member ih) (.inr rfl) (by omega)).2]

theorem Written.length_lt {n : Nat} (ih : Follows (readValue n) Written n) {v : Value}
    {s t : List Char} (h : Written v s t) (hs : s.length ≤ n + 1) : t.length < s.length := by
  cases h with
  | null | yes | no =>
    simp only [List.length_cons]
    omega
  | number hnumber => exact hnumber.length_lt
  | text hquoted => exact hquoted.length_lt
  | list hlist =>
    rw [List.length_cons] at hs ⊢
    have hlt := (hlist.read_eq ih (.inl rfl) (by omega)).1
    omega
  | object hobject =>
    rw [List.length_cons] at hs ⊢
    have hlt := (hobject.read_eq (follows_member ih) (.inr rfl) (by omega)).1
    omega

theorem follows_written (n : Nat) : Follows (readValue n) Written n := by
  induction n with
  | zero =>
    -- A value is not written with no characters at all.
    have hempty : ∀ {v : Value} {s t : List Char}, Written v s t → ¬ s.length ≤ 0 := by
      intro v s t h hs
      obtain ⟨c, r, rfl, -⟩ := h.opens
      simp at hs
    exact ⟨Written.opens, fun h hs _ => absurd hs (hempty h), fun h hs _ => absurd hs (hempty h)⟩
  | succ n ih =>
    exact ⟨Written.opens, fun h hs _ => h.length_lt ih hs, fun h hs ht => h.read_eq ih hs ht⟩

/-! ## Texts -/

theorem parse?_of_isText {v : Value} {text : String} (h : IsText v text) :
    parse? text = some v := by
  obtain ⟨s, t, hs, hv, ht⟩ := h
  have hstop : Stops t := ht.stops (by intro c hc; simp at hc)
  have hread := (follows_written _).reads hv hs.length_le hstop
  have hend : skip t = [] := ht.skip_eq
  simp [parse?, hv.opens.skip_eq hs, hread, hend]

example : parse? "[-1.50e+2, \"\\ud83d\\ude00\"]" = some (.list [.number (-150) 0, .text "😀"]) := by
  cbv

example : parse? "[1, ]" = none := by cbv

theorem IsText.eq {v w : Value} {text : String} (hv : IsText v text) (hw : IsText w text) :
    v = w :=
  Option.some.inj ((parse?_of_isText hv).symm.trans (parse?_of_isText hw))

end SuiteLint.Json
