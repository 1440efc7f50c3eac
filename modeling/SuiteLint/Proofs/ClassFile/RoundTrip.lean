import SuiteLint.Proofs.ClassFile.Layout
import SuiteLint.Proofs.Text.Utf8

/-!
# Reading back a class file

Each part of a layout is read back exactly from its bytes: the constants, whose slots stay in step
with the indices across those that take two (`reads_pool`), the values of annotations, which are
passed over without a byte too much or too few (`reads_skipValue`), attributes, members, and in the
end the file: `decode_classLayout` says that reading a written class file gives the class it
describes, whatever bytes follow.
-/

namespace SuiteLint.ClassFile

open Reader

theorem reads_word (n : UInt16) : Reads u16 (word n) n.toNat := reads_u16 n.toNat_lt_size

/-! ## Constants -/

namespace PoolConstant

/-- What is kept of a constant. -/
def kept : PoolConstant → Constant
  | utf8 text _ => .utf8 text
  | classRef name => .classRef name.toNat
  | long _ | double _ => .wide
  | _ => .other

/-- The slots that a constant fills. -/
def slots (c : PoolConstant) : List Constant :=
  match c.kept with
  | .wide => [.wide, .unused]
  | constant => [constant]

theorem length_slots (c : PoolConstant) : c.slots.length = c.width := by
  cases c <;> rfl

theorem width_pos (c : PoolConstant) : 0 < c.width := by
  cases c <;> exact Nat.succ_pos _

theorem reads_utf8 (text : String) (fits : (Text.Utf8.encode text).length < UInt16.size) :
    Reads (Constant.readTagged 1) (utf8 text fits).payload (.utf8 text) := by
  refine (reads_u16 fits).bind ((reads_bytes rfl).bindPure ?_)
  rw [Text.Utf8.decodeLossy_encode]

/-- A constant that is not looked at is passed over. -/
theorem reads_other {tag : UInt8} {bs : List UInt8} (htext : (tag == 1) = false)
    (hclass : (tag == 7) = false) (hwide : (tag == 5 || tag == 6) = false)
    (hsize : Constant.otherSize? tag = some bs.length) :
    Reads (Constant.readTagged tag) bs .other := by
  simp only [Constant.readTagged, htext, hclass, hwide, hsize, Bool.false_eq_true, if_false]
  exact (reads_skip rfl).bindPure rfl

theorem reads_payload (c : PoolConstant) : Reads (Constant.readTagged c.tag) c.payload c.kept := by
  cases c with
  | utf8 text fits => exact reads_utf8 text fits
  | classRef name => exact (reads_word name).bindPure rfl
  | long bits => exact (reads_skip (length_bigEndian 8 bits.toNat)).bindPure rfl
  | double bits => exact (reads_skip (length_bigEndian 8 bits.toNat)).bindPure rfl
  | _ => exact reads_other rfl rfl rfl (by simp [tag, payload, Constant.otherSize?])

theorem reads_bytes (c : PoolConstant) : Reads Constant.read c.bytes c.kept :=
  (reads_u8 c.tag).bind (reads_payload c)

end PoolConstant

/-- The pool that some constants make up. -/
def poolOf (constants : List PoolConstant) : ConstantPool :=
  ⟨.unused :: constants.flatMap PoolConstant.slots⟩

/-- The indices behind some constants are those of their slots. -/
theorem nextIndex_eq (constants : List PoolConstant) :
    nextIndex constants = (constants.flatMap PoolConstant.slots).length + 1 := by
  induction constants with
  | nil => rfl
  | cons c constants ih =>
      rw [nextIndex, ih, List.flatMap_cons, List.length_append, c.length_slots]
      omega

/-- Slots are read until the constants have filled all of theirs. -/
theorem reads_readSlots (constants : List PoolConstant) :
    Reads (ConstantPool.readSlots (constants.flatMap PoolConstant.slots).length)
      (constants.flatMap PoolConstant.bytes) (constants.flatMap PoolConstant.slots) := by
  induction constants with
  | nil =>
      rw [List.flatMap_nil, List.length_nil, ConstantPool.readSlots]
      exact Reads.pure []
  | cons c constants ih =>
      rw [List.flatMap_cons, List.flatMap_cons, List.length_append]
      by_cases hwide : c.kept = .wide
      · -- One constant is read and two slots are filled, so the count left over is the rest's.
        have hslots : c.slots = [.wide, .unused] := by rw [PoolConstant.slots, hwide]
        rw [hslots, List.length_cons, List.length_singleton, Nat.add_comm, ConstantPool.readSlots]
        refine c.reads_bytes.bind ?_
        rw [if_pos hwide, Nat.add_sub_cancel]
        exact ih.bindPure rfl
      · have hslots : c.slots = [c.kept] := by
          rw [PoolConstant.slots]
          split
          · contradiction
          · rfl
        rw [hslots, List.length_singleton, Nat.add_comm, ConstantPool.readSlots]
        refine c.reads_bytes.bind ?_
        rw [if_neg hwide]
        exact ih.bindPure rfl

theorem reads_pool {constants : List PoolConstant} (h : nextIndex constants < UInt16.size) :
    Reads ConstantPool.read
      (bigEndian 2 (nextIndex constants) ++ constants.flatMap PoolConstant.bytes)
      (poolOf constants) := by
  refine (reads_u16 h).bind ?_
  rw [nextIndex_eq, Nat.add_sub_cancel]
  exact (reads_readSlots constants).bindPure rfl

/-! ## References -/

section References

variable {constants : List PoolConstant}

/-- The slot at an index holds what is kept of the constant that the index points to. -/
theorem slot_of_pointsTo {index : UInt16} {c : PoolConstant} (h : PointsTo constants index c) :
    (poolOf constants).slots[index.toNat]? = some c.kept := by
  obtain ⟨before, after, rfl, hindex⟩ := h
  have hhead : c.slots[0]? = some c.kept := by cases c <;> rfl
  have hpos : 0 < c.slots.length := c.length_slots ▸ c.width_pos
  rw [hindex, nextIndex_eq, poolOf, List.getElem?_cons_succ, List.flatMap_append,
    List.flatMap_cons, List.getElem?_append_right (Nat.le_refl _), Nat.sub_self,
    List.getElem?_append_left hpos, hhead]

theorem utf8_textRef (t : TextRef constants) :
    (poolOf constants).utf8 t.index.toNat = .ok t.text := by
  rw [ConstantPool.utf8, slot_of_pointsTo t.points, PoolConstant.kept]

theorem className_classRef (c : ClassRef constants) :
    (poolOf constants).className c.index.toNat = .ok c.className := by
  rw [ConstantPool.className, slot_of_pointsTo c.points, PoolConstant.kept]
  simp only
  rw [utf8_textRef c.name]
  rfl

theorem reads_textRef (t : TextRef constants) :
    Reads (poolOf constants).readUtf8 (word t.index) t.text := by
  refine (reads_word t.index).bindPure ?_
  rw [utf8_textRef t, ofExcept_ok]

theorem reads_classRef (c : ClassRef constants) :
    Reads (poolOf constants).readClassName (word c.index) c.className := by
  refine (reads_word c.index).bindPure ?_
  rw [className_classRef c, ofExcept_ok]

/-! ## Annotations -/

theorem reads_entries {α : Type} {r : Reader α} {count : UInt16}
    {entry : Fin count.toNat → List UInt8} {value : Fin count.toNat → α}
    (h : ∀ i, Reads r (entry i) (value i)) :
    Reads (counted r) (entriesBytes entry) ((List.finRange count.toNat).map value) := by
  have hlength : (List.finRange count.toNat).length = count.toNat := List.length_finRange
  have htimes := reads_times fun i (_ : i ∈ List.finRange count.toNat) => h i
  rw [hlength] at htimes
  exact (reads_word count).bind htimes

/-- An annotation is read exactly if its values are passed over exactly. -/
theorem reads_readWith (type : TextRef constants) {count : UInt16}
    (names : Fin count.toNat → UInt16) {values : Fin count.toNat → List UInt8} {skip : Reader Unit}
    (h : ∀ i, Reads skip (values i) ()) :
    Reads (Annotations.readWith (poolOf constants) skip) (annotationBytes type names values)
      (annotationName type.text) := by
  have helement : ∀ i, Reads (do Reader.skip 2; skip) (word (names i) ++ values i) () :=
    fun i => (reads_skip (length_word (names i))).bind (h i)
  exact (reads_textRef type).bind ((reads_entries helement).bindPure rfl)

theorem length_le_entriesBytes {count : UInt16} (entry : Fin count.toNat → List UInt8)
    (i : Fin count.toNat) : (entry i).length ≤ (entriesBytes entry).length := by
  have hsub := List.sublist_flatten_of_mem
    (List.mem_map_of_mem (f := entry) (List.mem_finRange i))
  have hle := hsub.length_le
  rw [entriesBytes, List.length_append, List.flatMap_def]
  omega

theorem ValueLayout.length_bytes_pos (v : ValueLayout constants) : 0 < v.bytes.length := by
  cases v <;> exact Nat.succ_pos _

/-- A value is passed over exactly, with as many levels at hand as it has bytes. -/
theorem reads_skipWithin (depth : Nat) (v : ValueLayout constants) (h : v.bytes.length ≤ depth) :
    Reads (Annotations.skipWithin (poolOf constants) depth) v.bytes () := by
  -- Not an induction on the value: the reader counts levels down, and a nested value is at least
  -- one byte shorter than the one around it, so the bound carries over to the level below.
  induction depth generalizing v with
  | zero => exact absurd h (Nat.not_le.mpr v.length_bytes_pos)
  | succ depth ih =>
      cases v with
      | index kind i =>
          have htag : Annotations.isIndexTag kind.tag = true := by cases kind <;> decide
          refine (reads_u8 kind.tag).bind ?_
          rw [if_pos htag]
          exact reads_skip (length_word i)
      | enum type name =>
          exact (reads_u8 0x65).bind (reads_skip (by simp))
      | annotation type count names values =>
          have hvalue : ∀ i, Reads (Annotations.skipWithin (poolOf constants) depth)
              (values i).bytes () := by
            intro i
            have hle := length_le_entriesBytes (fun i => word (names i) ++ (values i).bytes) i
            refine ih (values i) ?_
            simp only [ValueLayout.bytes, annotationBytes, List.length_cons, List.length_append]
              at h hle
            omega
          exact (reads_u8 0x40).bind ((reads_readWith type names hvalue).bindPure rfl)
      | array count values =>
          have hvalue : ∀ i, Reads (Annotations.skipWithin (poolOf constants) depth)
              (values i).bytes () := by
            intro i
            have hle := length_le_entriesBytes (fun i => (values i).bytes) i
            refine ih (values i) ?_
            simp only [ValueLayout.bytes, List.length_cons] at h
            omega
          exact (reads_u8 0x5B).bind ((reads_entries hvalue).bindPure rfl)

theorem reads_skipValue (v : ValueLayout constants) :
    Reads (Annotations.skipValue (poolOf constants)) v.bytes () := by
  intro rest
  have hlength : v.bytes.length ≤ (v.bytes ++ rest).length := by
    rw [List.length_append]
    omega
  exact reads_skipWithin _ v hlength rest

theorem reads_annotationLayout (a : AnnotationLayout constants) :
    Reads (Annotations.read (poolOf constants)) a.bytes a.name :=
  reads_readWith a.type a.names fun i => reads_skipValue (a.values i)

/-! ## Fields and methods -/

theorem reads_table {α β : Type} {r : Reader β} {write : α → List UInt8} {value : α → β}
    (t : Table α) (h : ∀ a, Reads r (write a) (value a)) :
    Reads (counted r) (t.bytes write) (t.items.map value) :=
  reads_counted t.fits fun a _ => h a

theorem readBody_annotations (items : Table (AnnotationLayout constants)) :
    Member.readBody (poolOf constants) (items.bytes AnnotationLayout.bytes) =
      .ok (items.items.map AnnotationLayout.name) := by
  have hall := (reads_table items reads_annotationLayout).run
  rw [Member.readBody, StateT.run, Annotations.readAll, hall]
  rfl

theorem AttributeLayout.length_body_lt (a : AttributeLayout constants) :
    a.body.length < UInt32.size := by
  cases a with
  | annotations _ _ _ fits => exact fits
  | other _ _ _ fits => exact fits

/-- An attribute is passed over by its length; only those that hold annotations are looked into. -/
theorem reads_attribute (a : AttributeLayout constants) :
    Reads (Member.readAttribute (poolOf constants)) a.bytes a.annotationNames := by
  refine (reads_textRef a.name).bind ((reads_u32 a.length_body_lt).bind
    ((reads_bytes rfl).bindPure ?_))
  cases a with
  | annotations name items known fits =>
      rw [AttributeLayout.name, if_pos (List.contains_iff_mem.mpr known), AttributeLayout.body,
        readBody_annotations]
      rfl
  | other name body unknown fits =>
      rw [AttributeLayout.name, if_neg (mt List.contains_iff_mem.mp unknown)]
      rfl

/-- A member as it is stored. -/
def MemberLayout.stored (m : MemberLayout constants) : Member :=
  { access := m.access.toNat
    name := m.name.text
    descriptor := m.descriptor.text
    annotations := m.annotationNames }

theorem reads_member (m : MemberLayout constants) :
    Reads (Member.read (poolOf constants)) m.bytes m.stored :=
  (reads_word m.access).bind ((reads_textRef m.name).bind ((reads_textRef m.descriptor).bind
    ((reads_table m.attributes reads_attribute).bindPure rfl)))

theorem map_stored_fields (ms : List (MemberLayout constants)) :
    ((ms.map MemberLayout.stored).filter fun m => !hasFlag m.access .synthetic).map Member.toField =
      (ms.filter fun m => !m.isSynthetic).map MemberLayout.describeField := by
  rw [List.filter_map, List.map_map]
  rfl

theorem map_stored_methods (ms : List (MemberLayout constants)) :
    (ms.map MemberLayout.stored).map Member.toMethod = ms.map MemberLayout.describeMethod := by
  rw [List.map_map]
  rfl

end References

/-! ## Files -/

theorem reads_magic : Reads readMagic (bigEndian 4 magicNumber) () := by
  have hlt : magicNumber < UInt32.size := by decide
  refine (reads_u32 hlt).bindPure ?_
  rw [if_pos rfl]

/-- No index that points to a constant is zero. -/
theorem ClassRef.index_ne_zero {constants : List PoolConstant} (c : ClassRef constants) :
    c.index.toNat ≠ 0 := by
  obtain ⟨before, after, -, hindex⟩ := c.points
  rw [hindex, nextIndex_eq]
  omega

theorem reads_superName (f : ClassLayout) :
    Reads (readSuperName (poolOf f.constants)) (word f.superIndex)
      (f.superClass.map ClassRef.className) := by
  refine (reads_word f.superIndex).bindPure ?_
  cases hsuper : f.superClass with
  | none =>
      simp only [ClassLayout.superIndex, hsuper]
      rfl
  | some c =>
      simp only [ClassLayout.superIndex, hsuper]
      rw [if_neg c.index_ne_zero, className_classRef c]
      rfl

theorem reads_class (f : ClassLayout) (path : Path) :
    Reads (readClass path) f.bytes (f.describe path) := by
  have hversion : Reads (skip 4) (word f.minorVersion ++ word f.majorVersion) () :=
    reads_skip (by simp)
  refine reads_magic.bind (hversion.bind ((reads_pool f.constantsFit).bind
    ((reads_word f.access).bind ((reads_classRef f.thisClass).bind ((reads_superName f).bind
    ((reads_table f.interfaces reads_classRef).bind ((reads_table f.fields reads_member).bind
    ((reads_table f.methods reads_member).bindPure ?_))))))))
  rw [map_stored_fields, map_stored_methods]
  rfl

/-- Reading a written class file gives the class it describes, whatever bytes follow. -/
theorem decode_classLayout (f : ClassLayout) (path : Path) (trailing : List UInt8) :
    decode path (f.bytes ++ trailing) = .ok (f.describe path) := by
  rw [decode, StateT.run, reads_class f path trailing]
  rfl

/-- The indices behind a long are two further: the name is at three and the class at four. -/
example : ∃ f : ClassLayout, f.constants.map PoolConstant.tag = [5, 1, 7] ∧
    f.thisClass.index = 4 ∧ f.thisClass.name.text = "a/B" :=
  let text : (Text.Utf8.encode "a/B").length < UInt16.size := by
    rw [Text.Utf8.encode_eq_flatMap]
    decide
  let constants := [.long 7, .utf8 "a/B" text, .classRef 3]
  let name : TextRef constants := ⟨3, "a/B", text, [.long 7], [.classRef 3], rfl, rfl⟩
  let thisClass : ClassRef constants := ⟨4, name, [.long 7, .utf8 "a/B" text], [], rfl, rfl⟩
  ⟨⟨0, 52, constants, by decide, 0x21, thisClass, none, ⟨[], by decide⟩, ⟨[], by decide⟩,
    ⟨[], by decide⟩⟩, rfl, rfl, rfl⟩

end SuiteLint.ClassFile
