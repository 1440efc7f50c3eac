import Mathlib.Data.List.FinRange
import SuiteLint.ClassFile.CompiledClass
import SuiteLint.Proofs.ClassFile.Bytes

/-!
# Class files before they are written

A `ClassLayout` is a class file as data: its constants in order, and everything that refers to them.
A reference carries the proof that the constant it points to is there and of the right kind, and a
list the proof that its length fits the count in front of it, so every layout can be written.
`ClassLayout.bytes` writes it and `ClassLayout.describe` says what class it holds.
-/

namespace SuiteLint.ClassFile

/-! ## Constants -/

/-- A constant of a class file. -/
inductive PoolConstant where
  | utf8 (text : String) (fits : (Text.Utf8.encode text).length < UInt16.size)
  | integer (bits : UInt32)
  | float (bits : UInt32)
  | long (bits : UInt64)
  | double (bits : UInt64)
  /-- A class, by the index of its name. -/
  | classRef (name : UInt16)
  | string (text : UInt16)
  | fieldRef (owner nameAndType : UInt16)
  | methodRef (owner nameAndType : UInt16)
  | interfaceMethodRef (owner nameAndType : UInt16)
  | nameAndType (name descriptor : UInt16)
  | methodHandle (kind : UInt8) (reference : UInt16)
  | methodType (descriptor : UInt16)
  | dynamic (bootstrap nameAndType : UInt16)
  | invokeDynamic (bootstrap nameAndType : UInt16)
  | module (name : UInt16)
  | package (name : UInt16)

/-- A number of two bytes. -/
def word (n : UInt16) : List UInt8 := bigEndian 2 n.toNat

@[simp] theorem length_word (n : UInt16) : (word n).length = 2 := length_bigEndian 2 n.toNat

namespace PoolConstant

/-- The byte that tells the kind of a constant. -/
def tag : PoolConstant → UInt8
  | utf8 .. => 1
  | integer _ => 3
  | float _ => 4
  | long _ => 5
  | double _ => 6
  | classRef _ => 7
  | string _ => 8
  | fieldRef .. => 9
  | methodRef .. => 10
  | interfaceMethodRef .. => 11
  | nameAndType .. => 12
  | methodHandle .. => 15
  | methodType _ => 16
  | dynamic .. => 17
  | invokeDynamic .. => 18
  | module _ => 19
  | package _ => 20

/-- The bytes behind the tag. -/
def payload : PoolConstant → List UInt8
  | utf8 text _ =>
    bigEndian 2 (Text.Utf8.encode text).length ++ Text.Utf8.encode text
  | integer bits | float bits => bigEndian 4 bits.toNat
  | long bits | double bits => bigEndian 8 bits.toNat
  | classRef index | string index | methodType index | module index | package index => word index
  | fieldRef a b | methodRef a b | interfaceMethodRef a b | nameAndType a b | dynamic a b
  | invokeDynamic a b => word a ++ word b
  | methodHandle kind reference => kind :: word reference

/-- The bytes of a constant. -/
def bytes (c : PoolConstant) : List UInt8 := c.tag :: c.payload

/-- How many indices a constant takes. -/
def width : PoolConstant → Nat
  | long _ | double _ => 2
  | _ => 1

end PoolConstant

/-- The first index behind some constants; index zero is never used. -/
def nextIndex : List PoolConstant → Nat
  | [] => 1
  | c :: constants => c.width + nextIndex constants

/-- An index points to a constant: the constants before it take the indices below. -/
def PointsTo (constants : List PoolConstant) (index : UInt16) (c : PoolConstant) : Prop :=
  ∃ before after, constants = before ++ c :: after ∧ index.toNat = nextIndex before

/-- A reference to a text among some constants. -/
structure TextRef (constants : List PoolConstant) where
  index : UInt16
  text : String
  fits : (Text.Utf8.encode text).length < UInt16.size
  points : PointsTo constants index (.utf8 text fits)

/-- A reference to a class among some constants. -/
structure ClassRef (constants : List PoolConstant) where
  index : UInt16
  name : TextRef constants
  points : PointsTo constants index (.classRef name.index)

/-- The name of a class with dots between its segments. -/
def ClassRef.className {constants : List PoolConstant} (c : ClassRef constants) : String :=
  c.name.text.map fun ch => if ch == '/' then '.' else ch

/-! ## Lists behind a count -/

/-- A list whose length fits a count of two bytes. -/
structure Table (α : Type) where
  items : List α
  fits : items.length < UInt16.size

/-- The count of a list and its items, each written by `write`. -/
def Table.bytes {α : Type} (write : α → List UInt8) (t : Table α) : List UInt8 :=
  bigEndian 2 t.items.length ++ t.items.flatMap write

/-! ## Annotations -/

/-- The kinds of values that are one index. -/
inductive IndexKind where
  | byte
  | char
  | double
  | float
  | int
  | long
  | short
  | boolean
  | string
  | classLiteral

/-- The tag of a kind of value. -/
def IndexKind.tag : IndexKind → UInt8
  | byte => 0x42
  | char => 0x43
  | double => 0x44
  | float => 0x46
  | int => 0x49
  | long => 0x4A
  | short => 0x53
  | boolean => 0x5A
  | string => 0x73
  | classLiteral => 0x63

/-- A value of an annotation. Values nest through annotations and arrays to any depth; each of these
holds as many as its count says. -/
inductive ValueLayout (constants : List PoolConstant) where
  | index (kind : IndexKind) (index : UInt16)
  | enum (type name : UInt16)
  | annotation (type : TextRef constants) (count : UInt16) (names : Fin count.toNat → UInt16)
    (values : Fin count.toNat → ValueLayout constants)
  | array (count : UInt16) (values : Fin count.toNat → ValueLayout constants)

/-- The count of some entries and their bytes one after the other. -/
def entriesBytes {count : UInt16} (entry : Fin count.toNat → List UInt8) : List UInt8 :=
  word count ++ (List.finRange count.toNat).flatMap entry

/-- The bytes of an annotation whose values are written already. -/
def annotationBytes {constants : List PoolConstant} (type : TextRef constants) {count : UInt16}
    (names : Fin count.toNat → UInt16) (values : Fin count.toNat → List UInt8) : List UInt8 :=
  word type.index ++ entriesBytes fun i => word (names i) ++ values i

/-- The bytes of a value. -/
def ValueLayout.bytes {constants : List PoolConstant} : ValueLayout constants → List UInt8
  | index kind i => kind.tag :: word i
  | enum type name => 0x65 :: (word type ++ word name)
  | annotation type _ names values => 0x40 :: annotationBytes type names fun i => (values i).bytes
  | array _ values => 0x5B :: entriesBytes fun i => (values i).bytes

/-- An annotation. -/
structure AnnotationLayout (constants : List PoolConstant) where
  type : TextRef constants
  count : UInt16
  names : Fin count.toNat → UInt16
  values : Fin count.toNat → ValueLayout constants

namespace AnnotationLayout

variable {constants : List PoolConstant}

/-- The bytes of an annotation. -/
def bytes (a : AnnotationLayout constants) : List UInt8 :=
  annotationBytes a.type a.names fun i => (a.values i).bytes

/-- The simple name of the type of an annotation. -/
def name (a : AnnotationLayout constants) : String := annotationName a.type.text

end AnnotationLayout

/-! ## Fields and methods -/

/-- An attribute of a field or method: annotations, or bytes under any other name. -/
inductive AttributeLayout (constants : List PoolConstant) where
  | annotations (name : TextRef constants) (items : Table (AnnotationLayout constants))
    (known : name.text ∈ Member.annotationAttributes)
    (fits : (items.bytes AnnotationLayout.bytes).length < UInt32.size)
  | other (name : TextRef constants) (body : List UInt8)
    (unknown : name.text ∉ Member.annotationAttributes) (fits : body.length < UInt32.size)

namespace AttributeLayout

variable {constants : List PoolConstant}

/-- The reference to the name of an attribute. -/
def name : AttributeLayout constants → TextRef constants
  | annotations name .. | other name .. => name

/-- The body of an attribute. -/
def body : AttributeLayout constants → List UInt8
  | annotations _ items .. => items.bytes AnnotationLayout.bytes
  | other _ body .. => body

/-- The bytes of an attribute. -/
def bytes (a : AttributeLayout constants) : List UInt8 :=
  word a.name.index ++ (bigEndian 4 a.body.length ++ a.body)

/-- The simple names of the annotations in an attribute. -/
def annotationNames : AttributeLayout constants → List String
  | annotations _ items .. => items.items.map AnnotationLayout.name
  | other .. => []

end AttributeLayout

/-- A field or method. -/
structure MemberLayout (constants : List PoolConstant) where
  access : UInt16
  name : TextRef constants
  descriptor : TextRef constants
  attributes : Table (AttributeLayout constants)

namespace MemberLayout

variable {constants : List PoolConstant}

/-- The bytes of a field or method. -/
def bytes (m : MemberLayout constants) : List UInt8 :=
  word m.access ++ (word m.name.index ++ (word m.descriptor.index ++
    m.attributes.bytes AttributeLayout.bytes))

/-- The simple names of all annotations, in order. -/
def annotationNames (m : MemberLayout constants) : List String :=
  m.attributes.items.flatMap AttributeLayout.annotationNames

/-- Whether a field or method is made by the compiler. -/
def isSynthetic (m : MemberLayout constants) : Bool := hasFlag m.access.toNat .synthetic

/-- What a field layout says about the field. -/
def describeField (m : MemberLayout constants) : Field :=
  { name := m.name.text
    type := descriptorType m.descriptor.text
    isStatic := hasFlag m.access.toNat .static
    annotations := m.annotationNames }

/-- What a method layout says about the method. -/
def describeMethod (m : MemberLayout constants) : CompiledMethod :=
  { name := m.name.text, annotations := m.annotationNames, isSynthetic := m.isSynthetic }

end MemberLayout

/-! ## Files -/

/-- A class file up to the attributes of the class itself. -/
structure ClassLayout where
  minorVersion : UInt16
  majorVersion : UInt16
  constants : List PoolConstant
  constantsFit : nextIndex constants < UInt16.size
  access : UInt16
  thisClass : ClassRef constants
  /-- The super class; only the root of all classes has none. -/
  superClass : Option (ClassRef constants)
  interfaces : Table (ClassRef constants)
  fields : Table (MemberLayout constants)
  methods : Table (MemberLayout constants)

namespace ClassLayout

/-- The index of the super class, zero for none. -/
def superIndex (f : ClassLayout) : UInt16 :=
  match f.superClass with
  | some c => c.index
  | none => 0

/-- The bytes of a class file. -/
def bytes (f : ClassLayout) : List UInt8 :=
  bigEndian 4 magicNumber ++ (word f.minorVersion ++ word f.majorVersion ++
    ((bigEndian 2 (nextIndex f.constants) ++ f.constants.flatMap PoolConstant.bytes) ++
    (word f.access ++ (word f.thisClass.index ++ (word f.superIndex ++
    (f.interfaces.bytes (fun c => word c.index) ++ (f.fields.bytes MemberLayout.bytes ++
    f.methods.bytes MemberLayout.bytes)))))))

/-- The class that a class file holds. Compiler-made fields are left out. -/
def describe (f : ClassLayout) (path : Path) : CompiledClass :=
  { qualifiedName := f.thisClass.className
    path := path
    access := f.access.toNat
    superName := f.superClass.map ClassRef.className
    interfaces := f.interfaces.items.map ClassRef.className
    fields := (f.fields.items.filter fun m => !m.isSynthetic).map MemberLayout.describeField
    methods := f.methods.items.map MemberLayout.describeMethod }

end ClassLayout

end SuiteLint.ClassFile
