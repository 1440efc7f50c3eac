import SuiteLint.Text.Utf8

/-!
# Reading back what UTF-8 writes

`encode` writes a text character by character. Every character is read back from its bytes, whatever
follows them (`scan_utf8EncodeChar`), so both readers of UTF-8 give the text back:
`decode_encode` for the strict one and `decodeLossy_encode` for the lenient one.
-/

namespace SuiteLint.Text.Utf8

/-! ## The bytes of a text -/

theorem toList_loop_eq_append_drop (bs : ByteArray) (i : Nat) (acc : List UInt8) :
    ByteArray.toList.loop bs i acc = acc.reverse ++ bs.data.toList.drop i := by
  fun_induction ByteArray.toList.loop bs i acc with
  | case1 i acc h ih =>
      have hi : i < bs.data.toList.length := h
      rw [ih, List.reverse_cons, List.append_assoc, List.drop_eq_getElem_cons hi,
        List.singleton_append]
      have hget : bs.get! i = bs.data.toList[i] := by
        rw [Array.getElem_toList]
        exact getElem!_pos bs.data i h
      rw [hget]
  | case2 i acc h =>
      have hi : bs.data.toList.length ≤ i := Nat.not_lt.mp h
      rw [List.drop_eq_nil_of_le hi, List.append_nil]

theorem toList_eq_data (bs : ByteArray) : bs.toList = bs.data.toList := by
  rw [ByteArray.toList, toList_loop_eq_append_drop]
  rfl

/-- A text is written character by character. -/
theorem encode_eq_flatMap (s : String) : encode s = s.toList.flatMap String.utf8EncodeChar := by
  have hbytes : s.toUTF8 = (s.toList.flatMap String.utf8EncodeChar).toByteArray :=
    String.utf8Encode_toList.symm
  rw [encode, hbytes, toList_eq_data, List.toList_data_toByteArray]

/-! ## One character -/

theorem toNat_ofNat_of_lt {n : Nat} (h : n < 256) : (UInt8.ofNat n).toNat = n := by
  rw [UInt8.toNat_ofNat']
  exact Nat.mod_eq_of_lt h

theorem isContinuation_ofNat (n : Nat) : isContinuation (UInt8.ofNat (n % 64 + 128)) = true := by
  have h := toNat_ofNat_of_lt (show n % 64 + 128 < 256 by omega)
  simp only [isContinuation, Bool.and_eq_true, decide_eq_true_eq, UInt8.le_iff_toNat_le, h]
  constructor
  · show 128 ≤ _
    omega
  · show _ ≤ 191
    omega

theorem payload_ofNat (n : Nat) : payload (UInt8.ofNat (n % 64 + 128)) = n % 64 := by
  rw [payload, toNat_ofNat_of_lt (by omega)]
  omega

/-- Comparing a byte that is given by a small number. -/
theorem le_ofNat_iff {n : Nat} (h : n < 256) (b : UInt8) : b ≤ UInt8.ofNat n ↔ b.toNat ≤ n := by
  rw [UInt8.le_iff_toNat_le, toNat_ofNat_of_lt h]

theorem ofNat_le_iff {n : Nat} (h : n < 256) (b : UInt8) : UInt8.ofNat n ≤ b ↔ n ≤ b.toNat := by
  rw [UInt8.le_iff_toNat_le, toNat_ofNat_of_lt h]

theorem ofNat_lt_iff {n : Nat} (h : n < 256) (b : UInt8) : UInt8.ofNat n < b ↔ n < b.toNat := by
  rw [UInt8.lt_iff_toNat_lt, toNat_ofNat_of_lt h]

theorem ofNat_beq_iff {n : Nat} (h : n < 256) (b : UInt8) :
    (UInt8.ofNat n == b) = decide (n = b.toNat) := by
  rw [Bool.eq_iff_iff, beq_iff_eq, decide_eq_true_eq, ← UInt8.toNat_inj, toNat_ofNat_of_lt h]

/-- Whether a byte lies between two others. -/
theorem between_ofNat {n : Nat} (h : n < 256) (low high : UInt8) :
    (decide (low ≤ UInt8.ofNat n) && decide (UInt8.ofNat n ≤ high)) = true
      ↔ low.toNat ≤ n ∧ n ≤ high.toNat := by
  rw [Bool.and_eq_true, decide_eq_true_eq, decide_eq_true_eq, le_ofNat_iff h, ofNat_le_iff h]

theorem scan_one {v : Nat} (h : v ≤ 0x7f) (rest : List UInt8) :
    scan (UInt8.ofNat v) rest = .char (Char.ofNat v) 1 := by
  have hv : v < 256 := by omega
  have hlow : UInt8.ofNat v < 0x80 := (ofNat_lt_iff hv _).mpr (show v < 128 by omega)
  rw [scan, if_pos hlow, toNat_ofNat_of_lt hv]

theorem scan_two {v : Nat} (h : 0x7f < v) (h' : v ≤ 0x7ff) (rest : List UInt8) :
    scan (UInt8.ofNat (v / 64 % 32 + 192)) (UInt8.ofNat (v % 64 + 128) :: rest)
      = .char (Char.ofNat v) 2 := by
  have hf : v / 64 % 32 + 192 < 256 := by omega
  have hhigh : ¬UInt8.ofNat (v / 64 % 32 + 192) < 0x80 := fun hlt =>
    absurd ((ofNat_lt_iff hf _).mp hlt) (show ¬_ < 128 by omega)
  have hlead := (between_ofNat hf 0xC2 0xDF).mpr
    ⟨show 194 ≤ _ by omega, show _ ≤ 223 by omega⟩
  rw [scan, if_neg hhigh, if_pos hlead, scanTwo, if_pos (isContinuation_ofNat v),
    toNat_ofNat_of_lt hf, payload_ofNat]
  congr 2
  omega

theorem not_between_ofNat {n : Nat} (h : n < 256) (low high : UInt8) (hgt : high.toNat < n) :
    ¬(decide (low ≤ UInt8.ofNat n) && decide (UInt8.ofNat n ≤ high)) = true := by
  rw [between_ofNat h]
  omega

/-- The second byte of a three-byte character is one that may follow the first: the character is
too big for two bytes and is no surrogate. -/
theorem secondOfThree_ofNat {v : Nat} (h : 0x7ff < v) (h' : v ≤ 0xffff)
    (hrange : v < 0xD800 ∨ 0xDFFF < v) :
    secondOfThree (UInt8.ofNat (v / 4096 % 16 + 224)) (UInt8.ofNat (v / 64 % 64 + 128)) = true := by
  have hf : v / 4096 % 16 + 224 < 256 := by omega
  have hs : v / 64 % 64 + 128 < 256 := by omega
  rw [secondOfThree, ofNat_beq_iff hf, ofNat_beq_iff hf]
  simp only [decide_eq_true_eq]
  split
  · rename_i heq
    have heq : v / 4096 % 16 + 224 = 224 := heq
    exact (between_ofNat hs 0xA0 0xBF).mpr ⟨show 160 ≤ _ by omega, show _ ≤ 191 by omega⟩
  · split
    · rename_i heq
      have heq : v / 4096 % 16 + 224 = 237 := heq
      exact (between_ofNat hs 0x80 0x9F).mpr ⟨show 128 ≤ _ by omega, show _ ≤ 159 by omega⟩
    · exact isContinuation_ofNat (v / 64)

theorem scan_three {v : Nat} (h : 0x7ff < v) (h' : v ≤ 0xffff)
    (hrange : v < 0xD800 ∨ 0xDFFF < v) (rest : List UInt8) :
    scan (UInt8.ofNat (v / 4096 % 16 + 224))
        (UInt8.ofNat (v / 64 % 64 + 128) :: UInt8.ofNat (v % 64 + 128) :: rest)
      = .char (Char.ofNat v) 3 := by
  have hf : v / 4096 % 16 + 224 < 256 := by omega
  have hhigh : ¬UInt8.ofNat (v / 4096 % 16 + 224) < 0x80 := fun hlt =>
    absurd ((ofNat_lt_iff hf _).mp hlt) (show ¬_ < 128 by omega)
  have htwo := not_between_ofNat hf 0xC2 0xDF (show 223 < _ by omega)
  have hlead := (between_ofNat hf 0xE0 0xEF).mpr
    ⟨show 224 ≤ _ by omega, show _ ≤ 239 by omega⟩
  rw [scan, if_neg hhigh, if_neg htwo, if_pos hlead, scanThree,
    secondOfThree_ofNat h h' hrange, if_neg (by simp), if_pos (isContinuation_ofNat v),
    toNat_ofNat_of_lt hf, payload_ofNat, payload_ofNat]
  congr 2
  omega

/-- The second byte of a four-byte character is one that may follow the first: the character is too
big for three bytes and is not beyond the last code point. -/
theorem secondOfFour_ofNat {v : Nat} (h : 0xffff < v) (h' : v < 0x110000) :
    secondOfFour (UInt8.ofNat (v / 262144 % 8 + 240)) (UInt8.ofNat (v / 4096 % 64 + 128))
      = true := by
  have hf : v / 262144 % 8 + 240 < 256 := by omega
  have hs : v / 4096 % 64 + 128 < 256 := by omega
  rw [secondOfFour, ofNat_beq_iff hf, ofNat_beq_iff hf]
  simp only [decide_eq_true_eq]
  split
  · rename_i heq
    have heq : v / 262144 % 8 + 240 = 240 := heq
    exact (between_ofNat hs 0x90 0xBF).mpr ⟨show 144 ≤ _ by omega, show _ ≤ 191 by omega⟩
  · split
    · rename_i heq
      have heq : v / 262144 % 8 + 240 = 244 := heq
      exact (between_ofNat hs 0x80 0x8F).mpr ⟨show 128 ≤ _ by omega, show _ ≤ 143 by omega⟩
    · exact isContinuation_ofNat (v / 4096)

theorem scan_four {v : Nat} (h : 0xffff < v) (h' : v < 0x110000) (rest : List UInt8) :
    scan (UInt8.ofNat (v / 262144 % 8 + 240))
        (UInt8.ofNat (v / 4096 % 64 + 128) :: UInt8.ofNat (v / 64 % 64 + 128)
          :: UInt8.ofNat (v % 64 + 128) :: rest)
      = .char (Char.ofNat v) 4 := by
  have hf : v / 262144 % 8 + 240 < 256 := by omega
  have hhigh : ¬UInt8.ofNat (v / 262144 % 8 + 240) < 0x80 := fun hlt =>
    absurd ((ofNat_lt_iff hf _).mp hlt) (show ¬_ < 128 by omega)
  have htwo := not_between_ofNat hf 0xC2 0xDF (show 223 < _ by omega)
  have hthree := not_between_ofNat hf 0xE0 0xEF (show 239 < _ by omega)
  have hlead := (between_ofNat hf 0xF0 0xF4).mpr
    ⟨show 240 ≤ _ by omega, show _ ≤ 244 by omega⟩
  rw [scan, if_neg hhigh, if_neg htwo, if_neg hthree, if_pos hlead, scanFour,
    secondOfFour_ofNat h h', if_neg (by simp), isContinuation_ofNat, if_neg (by simp),
    if_pos (isContinuation_ofNat v), toNat_ofNat_of_lt hf, payload_ofNat, payload_ofNat,
    payload_ofNat]
  congr 2
  omega

/-- A character is read back from its bytes, whatever follows them. -/
theorem scan_utf8EncodeChar (c : Char) (rest : List UInt8) :
    ∃ first tail, String.utf8EncodeChar c = first :: tail
      ∧ scan first (tail ++ rest) = .char c (tail.length + 1) := by
  have hrange : c.val.toNat < 0xD800 ∨ (0xDFFF < c.val.toNat ∧ c.val.toNat < 0x110000) := c.valid
  have hback : Char.ofNat c.val.toNat = c := Char.ofNat_toNat c
  fun_cases String.utf8EncodeChar c with
  | case1 v h => exact ⟨_, _, rfl, hback ▸ scan_one h rest⟩
  | case2 v h h' => exact ⟨_, _, rfl, hback ▸ scan_two (Nat.not_le.mp h) h' rest⟩
  | case3 v h h' h'' =>
      exact ⟨_, _, rfl, hback ▸ scan_three (Nat.not_le.mp h') h'' (hrange.imp_right And.left) rest⟩
  | case4 v h h' h'' =>
      have hlast : v < 0x110000 := by
        rcases hrange with hlt | hlt
        · exact Nat.lt_trans hlt (by decide)
        · exact hlt.2
      exact ⟨_, _, rfl, hback ▸ scan_four (Nat.not_le.mp h'') hlast rest⟩

/-! ## Whole texts -/

theorem decodeLossyChars_utf8EncodeChar (c : Char) (rest : List UInt8) :
    decodeLossyChars (String.utf8EncodeChar c ++ rest) = c :: decodeLossyChars rest := by
  obtain ⟨first, tail, hbytes, hscan⟩ := scan_utf8EncodeChar c rest
  rw [hbytes, List.cons_append, decodeLossyChars, hscan]
  dsimp only
  rw [Nat.add_sub_cancel, List.drop_left]

theorem decodeFrom_utf8EncodeChar (index : Nat) (c : Char) (rest : List UInt8) :
    decodeFrom index (String.utf8EncodeChar c ++ rest)
      = (decodeFrom (index + (String.utf8EncodeChar c).length) rest).map (c :: ·) := by
  obtain ⟨first, tail, hbytes, hscan⟩ := scan_utf8EncodeChar c rest
  rw [hbytes, List.cons_append, decodeFrom, hscan]
  dsimp only
  rw [Nat.add_sub_cancel, List.drop_left, List.length_cons]
  rfl

/-- The lenient reader gives a text back. -/
theorem decodeLossy_encode (s : String) : decodeLossy (encode s) = s := by
  have hchars : ∀ cs : List Char,
      decodeLossyChars (cs.flatMap String.utf8EncodeChar) = cs := by
    intro cs
    induction cs with
    | nil => rw [List.flatMap_nil, decodeLossyChars]
    | cons c cs ih => rw [List.flatMap_cons, decodeLossyChars_utf8EncodeChar, ih]
  rw [decodeLossy, encode_eq_flatMap, hchars, String.ofList_toList]

/-- The strict reader gives a text back. -/
theorem decode_encode (s : String) : decode (encode s) = .ok s := by
  have hchars : ∀ (cs : List Char) (index : Nat),
      decodeFrom index (cs.flatMap String.utf8EncodeChar) = .ok cs := by
    intro cs
    induction cs with
    | nil => intro index; rw [List.flatMap_nil, decodeFrom]
    | cons c cs ih => intro index; rw [List.flatMap_cons, decodeFrom_utf8EncodeChar, ih]; rfl
  rw [decode, encode_eq_flatMap, hchars]
  show Except.ok (String.ofList s.toList) = _
  rw [String.ofList_toList]

end SuiteLint.Text.Utf8
