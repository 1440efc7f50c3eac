/-!
# UTF-8

Bytes are read as characters one at a time. `scan` looks at the front of a byte sequence and finds
a character, a maximal run of bytes that no character starts with, or a character that the end of
the input cuts off. Strict decoding stops at the first fault and says where it is; lenient decoding
puts one replacement character for each fault.
-/

namespace SuiteLint.Text.Utf8

/-- What the bytes start with. -/
inductive Scan where
  /-- A character written in `size` bytes. -/
  | char (c : Char) (size : Nat)
  /-- `size` bytes that belong to no character. -/
  | invalid (size : Nat)
  /-- The input ends inside a character. -/
  | incomplete
deriving Repr, DecidableEq

/-- Whether a byte continues a character. -/
def isContinuation (b : UInt8) : Bool := 0x80 ≤ b && b ≤ 0xBF

/-- The six bits that a continuation byte carries. -/
def payload (b : UInt8) : Nat := b.toNat % 64

/-- Which second bytes may follow the first byte of a three-byte character: overlong forms and
surrogates are left out. -/
def secondOfThree (first second : UInt8) : Bool :=
  if first == 0xE0 then 0xA0 ≤ second && second ≤ 0xBF
  else if first == 0xED then 0x80 ≤ second && second ≤ 0x9F
  else isContinuation second

/-- Which second bytes may follow the first byte of a four-byte character: overlong forms and values
above the last code point are left out. -/
def secondOfFour (first second : UInt8) : Bool :=
  if first == 0xF0 then 0x90 ≤ second && second ≤ 0xBF
  else if first == 0xF4 then 0x80 ≤ second && second ≤ 0x8F
  else isContinuation second

/-- Reads a two-byte character after its first byte. -/
def scanTwo (first : UInt8) : List UInt8 → Scan
  | [] => .incomplete
  | b :: _ =>
    if isContinuation b then .char (Char.ofNat (first.toNat % 32 * 64 + payload b)) 2
    else .invalid 1

/-- Reads a three-byte character after its first byte. -/
def scanThree (first : UInt8) : List UInt8 → Scan
  | [] => .incomplete
  | b :: rest =>
    if !secondOfThree first b then .invalid 1
    else
      match rest with
      | [] => .incomplete
      | c :: _ =>
        if isContinuation c then
          .char (Char.ofNat (first.toNat % 16 * 4096 + payload b * 64 + payload c)) 3
        else .invalid 2

/-- Reads a four-byte character after its first byte. -/
def scanFour (first : UInt8) : List UInt8 → Scan
  | [] => .incomplete
  | b :: rest =>
    if !secondOfFour first b then .invalid 1
    else
      match rest with
      | [] => .incomplete
      | c :: rest =>
        if !isContinuation c then .invalid 2
        else
          match rest with
          | [] => .incomplete
          | d :: _ =>
            if isContinuation d then
              .char (Char.ofNat
                (first.toNat % 8 * 262144 + payload b * 4096 + payload c * 64 + payload d)) 4
            else .invalid 3

/-- Looks at the front of the bytes `first :: rest`. -/
def scan (first : UInt8) (rest : List UInt8) : Scan :=
  if first < 0x80 then .char (Char.ofNat first.toNat) 1
  else if 0xC2 ≤ first && first ≤ 0xDF then scanTwo first rest
  else if 0xE0 ≤ first && first ≤ 0xEF then scanThree first rest
  else if 0xF0 ≤ first && first ≤ 0xF4 then scanFour first rest
  else .invalid 1

/-! ## Strict decoding -/

/-- The first fault of a byte sequence. -/
inductive Fault where
  /-- `size` bytes from `index` on belong to no character. -/
  | invalid (size index : Nat)
  /-- The input ends inside the character that starts at `index`. -/
  | incomplete (index : Nat)
deriving Repr, DecidableEq

/-- The wording of a fault. -/
def Fault.message : Fault → String
  | .invalid size index => s!"invalid utf-8 sequence of {size} bytes from index {index}"
  | .incomplete index => s!"incomplete utf-8 byte sequence from index {index}"

/-- Decodes bytes that stand at `index` of the whole input. -/
def decodeFrom (index : Nat) : List UInt8 → Except Fault (List Char)
  | [] => .ok []
  | first :: rest =>
    match scan first rest with
    | .char c size => do
      let more ← decodeFrom (index + size) (rest.drop (size - 1))
      return c :: more
    | .invalid size => .error (.invalid size index)
    | .incomplete => .error (.incomplete index)
termination_by bytes => bytes.length
decreasing_by simp only [List.length_drop, List.length_cons]; omega

/-- The text that the bytes spell, or the first fault. -/
def decode (bytes : List UInt8) : Except Fault String :=
  (decodeFrom 0 bytes).map String.ofList

/-! ## Lenient decoding -/

/-- The character that stands for undecodable bytes. -/
def replacement : Char := Char.ofNat 0xFFFD

/-- Decodes bytes with one replacement character for each fault. -/
def decodeLossyChars : List UInt8 → List Char
  | [] => []
  | first :: rest =>
    match scan first rest with
    | .char c size => c :: decodeLossyChars (rest.drop (size - 1))
    | .invalid size => replacement :: decodeLossyChars (rest.drop (size - 1))
    | .incomplete => [replacement]
termination_by bytes => bytes.length
decreasing_by all_goals simp only [List.length_drop, List.length_cons]; omega

/-- The text that the bytes spell, faults replaced. -/
def decodeLossy (bytes : List UInt8) : String :=
  String.ofList (decodeLossyChars bytes)

/-- The bytes of a text. -/
def encode (s : String) : List UInt8 := s.toUTF8.toList

end SuiteLint.Text.Utf8
