import SuiteLint.ClassFile.Annotations
import SuiteLint.Suite.TestClass

/-!
# Compiled classes

What a class file says about a class: its name, its place among other types, its fields and methods,
and their annotations.
-/

namespace SuiteLint.ClassFile

/-- The marks that a class, field or method may carry. -/
inductive AccessFlag where
  | static
  | interface
  | synthetic
  | annotationType
  | module

/-- The bit of a mark. -/
def AccessFlag.bit : AccessFlag → Nat
  | static => 3
  | interface => 9
  | synthetic => 12
  | annotationType => 13
  | module => 15

/-- Whether access flags hold a mark. -/
def hasFlag (access : Nat) (flag : AccessFlag) : Bool := access.testBit flag.bit

/-- A method of a compiled class. -/
structure CompiledMethod where
  name : String
  /-- The simple names of its annotations. -/
  annotations : List String
  isSynthetic : Bool
deriving Repr, DecidableEq

/-- A class as its class file describes it. -/
structure CompiledClass where
  /-- The name with its package, dots between the segments. -/
  qualifiedName : String
  path : Path
  access : Nat
  /-- The super class; only the root of all classes has none. -/
  superName : Option String
  interfaces : List String
  fields : List Field
  methods : List CompiledMethod
deriving Repr, DecidableEq

namespace CompiledClass

/-- The name without its package. -/
def simpleName (c : CompiledClass) : String := Text.simpleName c.qualifiedName

/-- The package, empty for the unnamed one. -/
def package (c : CompiledClass) : String :=
  match Text.splitLast? '.' c.qualifiedName with
  | some (package, _) => package
  | none => ""

/-- Whether a class file holds a class and not an interface, an annotation type or a module. -/
def isTypeDeclaration (c : CompiledClass) : Bool :=
  !(hasFlag c.access .interface || hasFlag c.access .annotationType || hasFlag c.access .module)

/-- Whether a class is nested or only describes a package or module. -/
def isAuxiliary (c : CompiledClass) : Bool :=
  c.simpleName.toList.contains '$' || c.simpleName == "package-info"
    || c.simpleName == "module-info"

end CompiledClass

/-! ## Members -/

/-- A field or method as it is stored. -/
structure Member where
  access : Nat
  name : String
  descriptor : String
  annotations : List String
deriving Repr, DecidableEq

namespace Member

/-- A member as a field. -/
def toField (m : Member) : Field :=
  { name := m.name
    type := descriptorType m.descriptor
    isStatic := hasFlag m.access .static
    annotations := m.annotations }

/-- A member as a method. -/
def toMethod (m : Member) : CompiledMethod :=
  { name := m.name, annotations := m.annotations, isSynthetic := hasFlag m.access .synthetic }

/-- The attributes that hold annotations. -/
def annotationAttributes : List String :=
  ["RuntimeVisibleAnnotations", "RuntimeInvisibleAnnotations"]

/-- Reads annotations from the body of an attribute. -/
def readBody (pool : ConstantPool) (body : List UInt8) : Except FormatError (List String) :=
  ((Annotations.readAll pool).run body).map (·.1)

/-- Reads an attribute and gives the annotations in it. -/
def readAttribute (pool : ConstantPool) : Reader (List String) := do
  let name ← pool.readUtf8
  let body ← Reader.bytes (← Reader.u32)
  if annotationAttributes.contains name then Reader.ofExcept (readBody pool body)
  else return []

/-- Reads a field or method. -/
def read (pool : ConstantPool) : Reader Member := do
  let access ← Reader.u16
  let name ← pool.readUtf8
  let descriptor ← pool.readUtf8
  let annotations ← Reader.counted (readAttribute pool)
  return { access, name, descriptor, annotations := annotations.flatten }

end Member

/-! ## Files -/

/-- The number that a class file starts with. -/
def magicNumber : Nat := 0xCAFEBABE

/-- Reads the number that a class file starts with. -/
def readMagic : Reader Unit := do
  let magic ← Reader.u32
  if magic = magicNumber then return () else Reader.fail (.badMagic magic)

/-- Reads the super class, index zero meaning none. -/
def readSuperName (pool : ConstantPool) : Reader (Option String) := do
  let index ← Reader.u16
  if index = 0 then return none
  else return some (← Reader.ofExcept (pool.className index))

/-- Reads a class file. Compiler-made fields are left out. -/
def readClass (path : Path) : Reader CompiledClass := do
  readMagic
  Reader.skip 4
  let pool ← ConstantPool.read
  let access ← Reader.u16
  let qualifiedName ← pool.readClassName
  let superName ← readSuperName pool
  let interfaces ← Reader.counted pool.readClassName
  let fields ← Reader.counted (Member.read pool)
  let methods ← Reader.counted (Member.read pool)
  return {
    qualifiedName, path, access, superName, interfaces
    fields := (fields.filter fun m => !hasFlag m.access .synthetic).map Member.toField
    methods := methods.map Member.toMethod }

/-- The class in a class file; bytes behind it are ignored. -/
def decode (path : Path) (bytes : List UInt8) : Except FormatError CompiledClass :=
  ((readClass path).run bytes).map (·.1)

end SuiteLint.ClassFile
