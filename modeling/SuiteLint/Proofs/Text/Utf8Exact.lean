import Mathlib.Data.List.Basic
import SuiteLint.Proofs.Text.Utf8

/-!
# Which bytes are UTF-8

The strict reader accepts the bytes of texts and nothing else (`decode_eq_ok_iff`): what it takes
for a character are the bytes that the character is written in (`begins_of_scan`).

A character cannot start in the middle of another one, since only its first byte is no continuation.
So the bytes of a text end in those of another one only if the text ends in it
(`encode_suffix_iff`).
-/

namespace SuiteLint.Text.Utf8

/-! ## Characters that are read -/

theorem toNat_val_ofNat {v : Nat} (h : v.isValidChar) : (Char.ofNat v).val.toNat = v := by
  rw [Char.ofNat, dif_pos h]
  rfl

/-- A byte is given by its number. -/
theorem ofNat_eq {n : Nat} {b : UInt8} (h : n = b.toNat) : UInt8.ofNat n = b := by
  rw [h, UInt8.ofNat_toNat]

theorem between_iff {low high b : UInt8} :
    (decide (low ≤ b) && decide (b ≤ high)) = true
      ↔ low.toNat ≤ b.toNat ∧ b.toNat ≤ high.toNat := by
  rw [Bool.and_eq_true, decide_eq_true_iff, decide_eq_true_iff, UInt8.le_iff_toNat_le,
    UInt8.le_iff_toNat_le]

theorem isContinuation_iff {b : UInt8} :
    isContinuation b = true ↔ 128 ≤ b.toNat ∧ b.toNat ≤ 191 := between_iff

theorem beq_iff_toNat {a b : UInt8} : (a == b) = true ↔ a.toNat = b.toNat := by
  rw [beq_iff_eq, UInt8.toNat_inj]

section

variable {first second third fourth : UInt8}

/-- A second byte is a continuation. Behind one first byte it has a higher lower bound, and behind
another one a lower upper bound. -/
theorem of_second {raised capped least most : UInt8} (hne : raised.toNat ≠ capped.toNat)
    (hleast : 128 ≤ least.toNat) (hmost : most.toNat ≤ 191)
    (h : (if first == raised then decide (least ≤ second) && decide (second ≤ 0xBF)
      else if first == capped then decide (0x80 ≤ second) && decide (second ≤ most)
      else isContinuation second) = true) :
    128 ≤ second.toNat ∧ second.toNat ≤ 191
      ∧ (first.toNat = raised.toNat → least.toNat ≤ second.toNat)
      ∧ (first.toNat = capped.toNat → second.toNat ≤ most.toNat) := by
  split at h
  · rename_i hraised
    have hraised := beq_iff_toNat.mp hraised
    have hsecond : least.toNat ≤ second.toNat ∧ second.toNat ≤ 191 := between_iff.mp h
    omega
  · rename_i hraised
    have hraised : first.toNat ≠ raised.toNat := fun heq => hraised (beq_iff_toNat.mpr heq)
    split at h
    · have hsecond : 128 ≤ second.toNat ∧ second.toNat ≤ most.toNat := between_iff.mp h
      omega
    · rename_i hcapped
      have hcapped : first.toNat ≠ capped.toNat := fun heq => hcapped (beq_iff_toNat.mpr heq)
      have hsecond := isContinuation_iff.mp h
      omega

/-- The second byte of three keeps overlong forms and surrogates out. -/
theorem of_secondOfThree (h : secondOfThree first second = true) :
    128 ≤ second.toNat ∧ second.toNat ≤ 191
      ∧ (first.toNat = 224 → 160 ≤ second.toNat) ∧ (first.toNat = 237 → second.toNat ≤ 159) :=
  of_second (by decide) (by decide) (by decide) h

/-- The second byte of four keeps overlong forms and what lies beyond the last code point out. -/
theorem of_secondOfFour (h : secondOfFour first second = true) :
    128 ≤ second.toNat ∧ second.toNat ≤ 191
      ∧ (first.toNat = 240 → 144 ≤ second.toNat) ∧ (first.toNat = 244 → second.toNat ≤ 143) :=
  of_second (by decide) (by decide) (by decide) h

theorem utf8EncodeChar_one (h : first.toNat < 128) :
    String.utf8EncodeChar (Char.ofNat first.toNat) = [first] := by
  have hvalid : first.toNat.isValidChar := Or.inl (by omega)
  rw [String.utf8EncodeChar, toNat_val_ofNat hvalid, if_pos (by omega), UInt8.ofNat_toNat]

theorem utf8EncodeChar_two (hlow : 194 ≤ first.toNat) (hhigh : first.toNat ≤ 223)
    (hsecond : isContinuation second = true) :
    String.utf8EncodeChar (Char.ofNat (first.toNat % 32 * 64 + payload second))
      = [first, second] := by
  have hbounds := isContinuation_iff.mp hsecond
  rw [payload]
  generalize hn : first.toNat % 32 * 64 + second.toNat % 64 = v
  have hvalid : v.isValidChar := Or.inl (by omega)
  have h₁ : UInt8.ofNat (v / 64 % 32 + 192) = first := ofNat_eq (by omega)
  have h₂ : UInt8.ofNat (v % 64 + 128) = second := ofNat_eq (by omega)
  rw [String.utf8EncodeChar, toNat_val_ofNat hvalid, if_neg (by omega), if_pos (by omega), h₁, h₂]

theorem utf8EncodeChar_three (hlow : 224 ≤ first.toNat) (hhigh : first.toNat ≤ 239)
    (hsecond : secondOfThree first second = true) (hthird : isContinuation third = true) :
    String.utf8EncodeChar
        (Char.ofNat (first.toNat % 16 * 4096 + payload second * 64 + payload third))
      = [first, second, third] := by
  have hbounds := of_secondOfThree hsecond
  have hbounds' := isContinuation_iff.mp hthird
  rw [payload, payload]
  generalize hn : first.toNat % 16 * 4096 + second.toNat % 64 * 64 + third.toNat % 64 = v
  have hvalid : v.isValidChar := by
    rw [Nat.isValidChar]
    omega
  have h₁ : UInt8.ofNat (v / 4096 % 16 + 224) = first := ofNat_eq (by omega)
  have h₂ : UInt8.ofNat (v / 64 % 64 + 128) = second := ofNat_eq (by omega)
  have h₃ : UInt8.ofNat (v % 64 + 128) = third := ofNat_eq (by omega)
  rw [String.utf8EncodeChar, toNat_val_ofNat hvalid, if_neg (by omega), if_neg (by omega),
    if_pos (by omega), h₁, h₂, h₃]

theorem utf8EncodeChar_four (hlow : 240 ≤ first.toNat) (hhigh : first.toNat ≤ 244)
    (hsecond : secondOfFour first second = true) (hthird : isContinuation third = true)
    (hfourth : isContinuation fourth = true) :
    String.utf8EncodeChar (Char.ofNat (first.toNat % 8 * 262144 + payload second * 4096
        + payload third * 64 + payload fourth))
      = [first, second, third, fourth] := by
  have hbounds := of_secondOfFour hsecond
  have hbounds' := isContinuation_iff.mp hthird
  have hbounds'' := isContinuation_iff.mp hfourth
  rw [payload, payload, payload]
  generalize hn : first.toNat % 8 * 262144 + second.toNat % 64 * 4096 + third.toNat % 64 * 64
    + fourth.toNat % 64 = v
  have hvalid : v.isValidChar := by
    rw [Nat.isValidChar]
    omega
  have h₁ : UInt8.ofNat (v / 262144 % 8 + 240) = first := ofNat_eq (by omega)
  have h₂ : UInt8.ofNat (v / 4096 % 64 + 128) = second := ofNat_eq (by omega)
  have h₃ : UInt8.ofNat (v / 64 % 64 + 128) = third := ofNat_eq (by omega)
  have h₄ : UInt8.ofNat (v % 64 + 128) = fourth := ofNat_eq (by omega)
  rw [String.utf8EncodeChar, toNat_val_ofNat hvalid, if_neg (by omega), if_neg (by omega),
    if_neg (by omega), h₁, h₂, h₃, h₄]

variable {rest : List UInt8} {c : Char} {size : Nat}

/-- The bytes in front of a sequence are those of a character. -/
def Begins (first : UInt8) (rest : List UInt8) (c : Char) (size : Nat) : Prop :=
  ∃ tail more, rest = tail ++ more ∧ size = tail.length + 1
    ∧ String.utf8EncodeChar c = first :: tail

theorem begins_of_scanTwo (hlow : 194 ≤ first.toNat) (hhigh : first.toNat ≤ 223)
    (h : scanTwo first rest = .char c size) : Begins first rest c size := by
  cases rest with
  | nil => cases h
  | cons second more =>
      rw [scanTwo] at h
      split at h
      · rename_i hsecond
        obtain ⟨rfl, rfl⟩ := Scan.char.inj h
        exact ⟨[second], more, rfl, rfl, utf8EncodeChar_two hlow hhigh hsecond⟩
      · cases h

theorem begins_of_scanThree (hlow : 224 ≤ first.toNat) (hhigh : first.toNat ≤ 239)
    (h : scanThree first rest = .char c size) : Begins first rest c size := by
  unfold scanThree at h
  split at h
  · cases h
  · split at h
    · cases h
    · rename_i second rest hsecond
      split at h
      · cases h
      · rename_i third more
        split at h
        · rename_i hthird
          obtain ⟨rfl, rfl⟩ := Scan.char.inj h
          exact ⟨[second, third], more, rfl, rfl,
            utf8EncodeChar_three hlow hhigh (by simpa using hsecond) hthird⟩
        · cases h

theorem begins_of_scanFour (hlow : 240 ≤ first.toNat) (hhigh : first.toNat ≤ 244)
    (h : scanFour first rest = .char c size) : Begins first rest c size := by
  unfold scanFour at h
  split at h
  · cases h
  · split at h
    · cases h
    · rename_i second rest hsecond
      split at h
      · cases h
      · split at h
        · cases h
        · rename_i third rest hthird
          split at h
          · cases h
          · rename_i fourth more
            split at h
            · rename_i hfourth
              obtain ⟨rfl, rfl⟩ := Scan.char.inj h
              exact ⟨[second, third, fourth], more, rfl, rfl, utf8EncodeChar_four hlow hhigh
                (by simpa using hsecond) (by simpa using hthird) hfourth⟩
            · cases h

/-- What is read as a character is written as it stands there. -/
theorem begins_of_scan (h : scan first rest = .char c size) : Begins first rest c size := by
  unfold scan at h
  split at h
  · rename_i hone
    have hone : first.toNat < 128 := UInt8.lt_iff_toNat_lt.mp hone
    obtain ⟨rfl, rfl⟩ := Scan.char.inj h
    exact ⟨[], rest, rfl, rfl, utf8EncodeChar_one hone⟩
  · split at h
    · rename_i htwo
      obtain ⟨hlow, hhigh⟩ := between_iff.mp htwo
      exact begins_of_scanTwo hlow hhigh h
    · split at h
      · rename_i hthree
        obtain ⟨hlow, hhigh⟩ := between_iff.mp hthree
        exact begins_of_scanThree hlow hhigh h
      · split at h
        · rename_i hfour
          obtain ⟨hlow, hhigh⟩ := between_iff.mp hfour
          exact begins_of_scanFour hlow hhigh h
        · cases h

end

/-! ## Texts that are read -/

theorem eq_flatMap_of_decodeFrom {index : Nat} {bytes : List UInt8} {cs : List Char}
    (h : decodeFrom index bytes = .ok cs) : bytes = cs.flatMap String.utf8EncodeChar := by
  fun_induction decodeFrom index bytes generalizing cs with
  | case1 =>
      obtain rfl := Except.ok.inj h
      rfl
  | case2 index first rest c size hscan ih =>
      obtain ⟨tail, more, rfl, rfl, hc⟩ := begins_of_scan hscan
      rw [Nat.add_sub_cancel, List.drop_left] at h ih
      cases hmore : decodeFrom (index + (tail.length + 1)) more with
      | error fault =>
          rw [hmore] at h
          cases h
      | ok cs' =>
          rw [hmore] at h
          obtain rfl := Except.ok.inj h
          rw [List.flatMap_cons, hc, ← ih hmore]
          rfl
  | case3 => cases h
  | case4 => cases h

/-- The strict reader accepts exactly the bytes of texts. -/
theorem decode_eq_ok_iff {bytes : List UInt8} {s : String} :
    decode bytes = .ok s ↔ bytes = encode s := by
  constructor
  · intro h
    rw [decode] at h
    cases hchars : decodeFrom 0 bytes with
    | error fault =>
        rw [hchars] at h
        cases h
    | ok cs =>
        rw [hchars] at h
        obtain rfl := Except.ok.inj h
        rw [encode_eq_flatMap, String.toList_ofList]
        exact eq_flatMap_of_decodeFrom hchars
  · rintro rfl
    exact decode_encode s

theorem encode_inj {s t : String} (h : encode s = encode t) : s = t := by
  have hs := decode_encode s
  rw [h, decode_encode] at hs
  exact (Except.ok.inj hs).symm

/-! ## Ends of texts -/

/-- Only the first byte of a character is no continuation. -/
theorem isContinuation_utf8EncodeChar (c : Char) :
    ∃ first tail, String.utf8EncodeChar c = first :: tail ∧ isContinuation first = false
      ∧ ∀ b ∈ tail, isContinuation b = true := by
  have hlow : ∀ n, n < 128 → isContinuation (UInt8.ofNat n) = false := by
    intro n hn
    rw [Bool.eq_false_iff, ne_eq, isContinuation_iff, toNat_ofNat_of_lt (by omega)]
    omega
  have hhigh : ∀ n, 191 < n → n < 256 → isContinuation (UInt8.ofNat n) = false := by
    intro n hn hn'
    rw [Bool.eq_false_iff, ne_eq, isContinuation_iff, toNat_ofNat_of_lt hn']
    omega
  fun_cases String.utf8EncodeChar c with
  | case1 v h => exact ⟨_, _, rfl, hlow v (by omega), by simp⟩
  | case2 v | case3 v | case4 v =>
      refine ⟨_, _, rfl, hhigh _ (by omega) (by omega), ?_⟩
      simp only [List.mem_cons, List.not_mem_nil, or_false, forall_eq, forall_eq_or_imp,
        isContinuation_ofNat, and_self]

/-- What follows a part of a character does not start with a character. -/
theorem eq_nil_of_inside {c : Char} {front back more : List UInt8} {ds : List Char}
    (hfront : front ≠ []) (hback : back ≠ []) (hc : String.utf8EncodeChar c = front ++ back)
    (hds : ds.flatMap String.utf8EncodeChar = back ++ more) : ds = [] := by
  cases ds with
  | nil => rfl
  | cons d ds =>
      obtain ⟨first, tail, hd, hfirst, -⟩ := isContinuation_utf8EncodeChar d
      obtain ⟨first', tail', hc', -, htail'⟩ := isContinuation_utf8EncodeChar c
      obtain ⟨f, front, rfl⟩ := List.exists_cons_of_ne_nil hfront
      obtain ⟨b, back, rfl⟩ := List.exists_cons_of_ne_nil hback
      rw [hc', List.cons_append] at hc
      obtain ⟨-, rfl⟩ := List.cons.inj hc
      rw [List.flatMap_cons, hd] at hds
      obtain ⟨rfl, -⟩ := List.cons.inj hds
      rw [htail' first (by simp)] at hfirst
      cases hfirst

theorem flatMap_inj {cs ds : List Char}
    (h : cs.flatMap String.utf8EncodeChar = ds.flatMap String.utf8EncodeChar) : cs = ds := by
  have hencode : encode (String.ofList cs) = encode (String.ofList ds) := by
    simpa [encode_eq_flatMap] using h
  simpa using congrArg String.toList (encode_inj hencode)

theorem suffix_of_flatMap_suffix {cs ds : List Char}
    (h : ds.flatMap String.utf8EncodeChar <:+ cs.flatMap String.utf8EncodeChar) : ds <:+ cs := by
  induction cs with
  | nil =>
      have hnil : ds.flatMap String.utf8EncodeChar = [].flatMap String.utf8EncodeChar :=
        List.suffix_nil.mp h
      exact flatMap_inj hnil ▸ List.suffix_rfl
  | cons c cs ih =>
      obtain ⟨front, hfront⟩ := h
      rw [List.flatMap_cons] at hfront
      rcases List.append_eq_append_iff.mp hfront with ⟨back, hc, hds⟩ | ⟨more, -, hcs⟩
      · by_cases hfront : front = []
        · subst hfront
          have hall : ds.flatMap String.utf8EncodeChar
              = (c :: cs).flatMap String.utf8EncodeChar := by
            rw [hds, List.flatMap_cons, hc, List.nil_append]
          exact flatMap_inj hall ▸ List.suffix_rfl
        · by_cases hback : back = []
          · subst hback
            exact flatMap_inj hds ▸ List.suffix_cons c cs
          · rw [eq_nil_of_inside hfront hback hc hds]
            exact List.nil_suffix
      · exact (ih ⟨more, hcs.symm⟩).trans (List.suffix_cons c cs)

/-- The bytes of a text end in those of another one exactly if the text ends in it. -/
theorem encode_suffix_iff {s t : String} : encode s <:+ encode t ↔ s.toList <:+ t.toList := by
  rw [encode_eq_flatMap, encode_eq_flatMap]
  constructor
  · exact suffix_of_flatMap_suffix
  · rintro ⟨front, hfront⟩
    exact ⟨front.flatMap String.utf8EncodeChar, by rw [← hfront, List.flatMap_append]⟩

theorem length_encode (s : String) : (encode s).length = s.utf8ByteSize := by
  rw [encode, toList_eq_data]
  rfl

/-! ## Places between characters -/

/-- Whether bytes can be cut at an index without cutting a character. -/
def IsBoundary (bytes : List UInt8) (index : Nat) : Prop :=
  index ≤ bytes.length ∧ ∀ b, bytes[index]? = some b → isContinuation b = false

/-- A text can be cut where its first characters end. -/
theorem isBoundary_append (front : List UInt8) (back : String) :
    IsBoundary (front ++ encode back) front.length := by
  refine ⟨by simp, fun b hb => ?_⟩
  rw [List.getElem?_append_right (Nat.le_refl _), Nat.sub_self, encode_eq_flatMap] at hb
  cases hchars : back.toList with
  | nil =>
      rw [hchars] at hb
      cases hb
  | cons c cs =>
      obtain ⟨first, tail, hc, hfirst, -⟩ := isContinuation_utf8EncodeChar c
      rw [hchars, List.flatMap_cons, hc] at hb
      obtain rfl := Option.some.inj hb
      exact hfirst

end SuiteLint.Text.Utf8
