import SuiteLint.ClassFile.ConstantPool
import SuiteLint.ClassFile.Descriptor

/-!
# Annotations in class files

Of an annotation only the name of its type is kept; its values are passed over. Values nest
through arrays and annotations. Each level takes at least one byte, so the number of bytes at hand
bounds the depth, and a value that is still open when the bound is reached has no bytes left to
read.
-/

namespace SuiteLint.ClassFile.Annotations

/-- Whether a tag marks a value that is one index: a constant, a string or a class. -/
def isIndexTag (tag : UInt8) : Bool :=
  ("BCDFIJSZsc".toList.map fun c => UInt8.ofNat c.toNat).contains tag

/-- Reads an annotation whose values are passed over by `skipValue`. -/
def readWith (pool : ConstantPool) (skipValue : Reader Unit) : Reader String := do
  let type ← pool.readUtf8
  let _ ← Reader.counted (do Reader.skip 2; skipValue)
  return annotationName type

/-- Passes over a value that nests at most `depth` levels. -/
def skipWithin (pool : ConstantPool) : Nat → Reader Unit
  | 0 => Reader.fail .truncated
  | depth + 1 => do
    let tag ← Reader.u8
    if isIndexTag tag then Reader.skip 2
    else if tag == 0x65 then Reader.skip 4
    else if tag == 0x40 then do
      let _ ← readWith pool (skipWithin pool depth)
    else if tag == 0x5B then do
      let _ ← Reader.counted (skipWithin pool depth)
    else Reader.fail (.unknownElement tag)

/-- Passes over a value. -/
def skipValue (pool : ConstantPool) : Reader Unit := fun input =>
  skipWithin pool input.length input

/-- Reads an annotation. -/
def read (pool : ConstantPool) : Reader String := readWith pool (skipValue pool)

/-- Reads all annotations of an attribute. -/
def readAll (pool : ConstantPool) : Reader (List String) := Reader.counted (read pool)

end SuiteLint.ClassFile.Annotations
