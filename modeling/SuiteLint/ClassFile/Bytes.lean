import SuiteLint.Text.Hex

/-!
# Reading class files byte by byte

A reader takes bytes from the front of its input and leaves the rest. Numbers are stored with the
high byte first. A reader fails as `truncated` when it needs more bytes than there are.
-/

namespace SuiteLint.ClassFile

/-- What a constant is expected to be. -/
inductive ConstantKind where
  | utf8
  | classRef
deriving Repr, DecidableEq

/-- Why bytes are no class file. -/
inductive FormatError where
  /-- The file starts with another number. -/
  | badMagic (magic : Nat)
  | truncated
  /-- No constant has the tag. -/
  | unknownConstant (tag : UInt8)
  /-- The constant at an index is missing or of another kind. -/
  | badIndex (index : Nat) (expected : ConstantKind)
  /-- No value of an annotation has the tag. -/
  | unknownElement (tag : UInt8)
deriving Repr, DecidableEq

/-- The name of a kind of constant. -/
def ConstantKind.name : ConstantKind → String
  | utf8 => "Utf8"
  | classRef => "Class"

/-- A number as eight hexadecimal digits behind `0x`. -/
def hexWord (n : Nat) : String :=
  let digits := Text.Hex.ofNat n
  "0x" ++ "".pushn '0' (8 - digits.length) ++ digits

/-- Whether the character of a byte can be shown as it is. -/
def isShown (b : UInt8) : Bool :=
  (0x20 ≤ b && b < 0x7F) || (0xA0 < b && b != 0xAD)

/-- The character of a byte in quotes, escaped where it could not be read. -/
def quotedByte (b : UInt8) : String :=
  let body :=
    if b == 0 then "\\0"
    else if b == 9 then "\\t"
    else if b == 10 then "\\n"
    else if b == 13 then "\\r"
    else if b == 39 then "\\'"
    else if b == 92 then "\\\\"
    else if isShown b then String.singleton (Char.ofNat b.toNat)
    else "\\u\x7b" ++ Text.Hex.ofNat b.toNat ++ "\x7d"
  "'" ++ body ++ "'"

/-- The wording of an error. -/
def FormatError.message : FormatError → String
  | badMagic magic => s!"not a class file (magic {hexWord magic})"
  | truncated => "unexpected end of class file"
  | unknownConstant tag => s!"unknown constant pool tag {tag.toNat}"
  | badIndex index expected => s!"constant pool index {index} is not a {expected.name}"
  | unknownElement tag => s!"unknown annotation element tag {quotedByte tag}"

/-- A reader of values of a type. -/
abbrev Reader (α : Type) := StateT (List UInt8) (Except FormatError) α

namespace Reader

/-- Fails with an error. -/
def fail {α : Type} (e : FormatError) : Reader α := fun _ => .error e

/-- Cuts a list behind its first `n` elements, if it has that many. -/
def splitExact? {α : Type} : Nat → List α → Option (List α × List α)
  | 0, rest => some ([], rest)
  | _ + 1, [] => none
  | n + 1, a :: rest => (splitExact? n rest).map fun p => (a :: p.1, p.2)

/-- Takes `n` bytes. -/
def bytes (n : Nat) : Reader (List UInt8) := fun input =>
  match splitExact? n input with
  | some result => .ok result
  | none => .error .truncated

/-- Passes over `n` bytes. -/
def skip (n : Nat) : Reader Unit := do
  let _ ← bytes n

/-- The number that bytes stand for, high byte first. -/
def number (bs : List UInt8) : Nat := bs.foldl (fun n b => n * 256 + b.toNat) 0

/-- Takes one byte. -/
def u8 : Reader UInt8
  | [] => .error .truncated
  | b :: rest => .ok (b, rest)

/-- Takes a number of two bytes. -/
def u16 : Reader Nat := do
  return number (← bytes 2)

/-- Takes a number of four bytes. -/
def u32 : Reader Nat := do
  return number (← bytes 4)

/-- Reads `n` values one after the other. -/
def times {α : Type} : Nat → Reader α → Reader (List α)
  | 0, _ => return []
  | n + 1, r => do
    let a ← r
    let more ← times n r
    return a :: more

/-- Reads a count of two bytes and as many values. -/
def counted {α : Type} (r : Reader α) : Reader (List α) := do
  times (← u16) r

/-- Fails unless a result is there. -/
def ofExcept {α : Type} : Except FormatError α → Reader α
  | .ok a => return a
  | .error e => fail e

end Reader

end SuiteLint.ClassFile
