import SuiteLint.ClassFile.Bytes
import SuiteLint.Text.Split
import SuiteLint.Text.Utf8

/-!
# Constant pools

A class file refers to names and types by their index in its pool of constants. Index zero is never
used, and a long or double takes two indices, the second of which stays unused. Only texts and class
references are kept.
-/

namespace SuiteLint.ClassFile

/-- A slot of a constant pool. -/
inductive Constant where
  | utf8 (text : String)
  /-- A class, by the index of its name. -/
  | classRef (name : Nat)
  /-- A constant that is not looked at. -/
  | other
  /-- A long or double, which takes the next slot too. -/
  | wide
  /-- A slot without a constant. -/
  | unused
deriving Repr, DecidableEq

namespace Constant

/-- How many bytes follow the tag of a constant that is not looked at. -/
def otherSize? (tag : UInt8) : Option Nat :=
  if tag == 8 || tag == 16 || tag == 19 || tag == 20 then some 2
  else if tag == 15 then some 3
  else if tag == 3 || tag == 4 || tag == 9 || tag == 10 || tag == 11 || tag == 12 || tag == 17
      || tag == 18 then some 4
  else none

/-- Reads a constant behind its tag. -/
def readTagged (tag : UInt8) : Reader Constant :=
  if tag == 1 then do
    let size ← Reader.u16
    return utf8 (Text.Utf8.decodeLossy (← Reader.bytes size))
  else if tag == 7 then do
    return classRef (← Reader.u16)
  else if tag == 5 || tag == 6 then do
    Reader.skip 8
    return wide
  else
    match otherSize? tag with
    | some size => do
      Reader.skip size
      return other
    | none => Reader.fail (.unknownConstant tag)

/-- Reads a constant. -/
def read : Reader Constant := do
  readTagged (← Reader.u8)

end Constant

/-- The slots of a constant pool, from index zero. -/
structure ConstantPool where
  slots : List Constant
deriving Repr

namespace ConstantPool

/-- Reads constants until `n` slots are filled; a wide constant may fill one slot more. -/
def readSlots (n : Nat) : Reader (List Constant) :=
  match n with
  | 0 => return []
  | n + 1 => do
    let constant ← Constant.read
    if constant = .wide then do
      let more ← readSlots (n - 1)
      return .wide :: .unused :: more
    else do
      let more ← readSlots n
      return constant :: more
termination_by n

/-- Reads a pool behind its count, which counts the unused slot zero. -/
def read : Reader ConstantPool := do
  let count ← Reader.u16
  return ⟨.unused :: (← readSlots (count - 1))⟩

/-- The text at an index. -/
def utf8 (pool : ConstantPool) (index : Nat) : Except FormatError String :=
  match pool.slots[index]? with
  | some (.utf8 text) => .ok text
  | _ => .error (.badIndex index .utf8)

/-- The name of the class at an index, with dots between its segments. -/
def className (pool : ConstantPool) (index : Nat) : Except FormatError String :=
  match pool.slots[index]? with
  | some (.classRef name) => (pool.utf8 name).map (Text.replaceChar '/' '.')
  | _ => .error (.badIndex index .classRef)

/-- Reads an index and gives the text there. -/
def readUtf8 (pool : ConstantPool) : Reader String := do
  Reader.ofExcept (pool.utf8 (← Reader.u16))

/-- Reads an index and gives the name of the class there. -/
def readClassName (pool : ConstantPool) : Reader String := do
  Reader.ofExcept (pool.className (← Reader.u16))

end ConstantPool

end SuiteLint.ClassFile
