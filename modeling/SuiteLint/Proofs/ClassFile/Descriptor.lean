import SuiteLint.ClassFile.Descriptor
import SuiteLint.Proofs.Text.Split
import SuiteLint.Proofs.Text.Utf8Exact

/-!
# Types behind descriptors

A `FieldType` is a type as data: a primitive type or a class by its internal name, under a number of
dimensions. `FieldType.descriptor` is how a class file spells it and `FieldType.written` how a
source does. Reading a descriptor leads from the one to the other whatever the name is
(`descriptorType_descriptor`), also where a name looks like a letter or ends like a descriptor.

Nothing is lost on the way as long as names hold no dot and no dollar, for which slashes could be
taken, and no bracket (`written_inj`). Brackets are counted as characters and passed over as bytes,
which comes to the same because a bracket is one byte (`encode_brackets`).
-/

namespace SuiteLint.ClassFile

/-- The primitive types. -/
inductive Primitive where
  | byte
  | char
  | double
  | float
  | int
  | long
  | short
  | boolean
deriving DecidableEq

namespace Primitive

/-- The letter of a primitive type in descriptors. -/
def letter : Primitive → Char
  | byte => 'B'
  | char => 'C'
  | double => 'D'
  | float => 'F'
  | int => 'I'
  | long => 'J'
  | short => 'S'
  | boolean => 'Z'

/-- The word for a primitive type in sources. -/
def keyword : Primitive → String
  | byte => "byte"
  | char => "char"
  | double => "double"
  | float => "float"
  | int => "int"
  | long => "long"
  | short => "short"
  | boolean => "boolean"

theorem keyword_inj {p q : Primitive} (h : p.keyword = q.keyword) : p = q := by
  cases p <;> cases q <;> first | rfl | exact absurd h (by decide)

end Primitive

/-- A type without dimensions. A class is given by its internal name. -/
inductive ElementType where
  | primitive (p : Primitive)
  | named (name : String)
deriving DecidableEq

namespace ElementType

/-- The characters of a type in a descriptor. -/
def descriptorChars : ElementType → List Char
  | primitive p => [p.letter]
  | named name => 'L' :: (name.toList ++ [';'])

/-- A type as a source spells it. -/
def written : ElementType → String
  | primitive p => p.keyword
  | named name => name.map fun c => if c = '/' ∨ c = '$' then '.' else c

/-- Names that cannot be taken for others: they hold no dot, dollar, semicolon or bracket, and are no
keyword of a primitive type. -/
def Plain : ElementType → Prop
  | primitive _ => True
  | named name => (∀ c ∈ name.toList, c ≠ '.' ∧ c ≠ '$' ∧ c ≠ ';' ∧ c ≠ '[') ∧
      ∀ p : Primitive, name ≠ p.keyword

end ElementType

/-- The type of a field. -/
structure FieldType where
  dimensions : Nat
  element : ElementType
deriving DecidableEq

namespace FieldType

/-- The descriptor of a type. -/
def descriptor (t : FieldType) : String :=
  String.ofList (List.replicate t.dimensions '[' ++ t.element.descriptorChars)

/-- A type as a source spells it. -/
def written (t : FieldType) : String :=
  t.element.written ++ String.join (List.replicate t.dimensions "[]")

end FieldType

/-! ## Reading a descriptor -/

theorem elementType_descriptorChars (e : ElementType) :
    elementType e.descriptorChars = e.written := by
  cases e with
  | primitive p => cases p <;> rfl
  | named name =>
      have hlong : primitive? (ElementType.named name).descriptorChars = none := by
        rw [ElementType.descriptorChars]
        cases name.toList <;> rfl
      have hname : internalName (ElementType.named name).descriptorChars = name.toList := by
        rw [ElementType.descriptorChars, internalName, Text.dropBack?_append]
        rfl
      rw [elementType, hlong, hname, ← String.toList_inj]
      simp [ElementType.written, dotted, String.toList_map]

theorem descriptorChars_dropWhile (e : ElementType) :
    e.descriptorChars.dropWhile (· == '[') = e.descriptorChars := by
  cases e with
  | primitive p => cases p <;> rfl
  | named name => rfl

/-- A descriptor is read as the type that it was made from. -/
theorem descriptorType_descriptor (t : FieldType) : descriptorType t.descriptor = t.written := by
  have hall : ∀ c ∈ List.replicate t.dimensions '[', (c == '[') = true := by
    intro c hc
    rw [List.eq_of_mem_replicate hc]
    rfl
  have hdrop := descriptorChars_dropWhile t.element
  have htake : t.element.descriptorChars.takeWhile (· == '[') = [] := by
    have hsplit := List.takeWhile_append_dropWhile (p := (· == '[')) (l := t.element.descriptorChars)
    rw [hdrop] at hsplit
    exact List.append_left_eq_self.mp hsplit
  rw [descriptorType, FieldType.descriptor, String.toList_ofList,
    List.takeWhile_append_of_pos hall, List.dropWhile_append_of_pos hall, htake, hdrop,
    List.append_nil, List.length_replicate, elementType_descriptorChars]
  rfl

/-! ## Telling types apart -/

/-- A name without dots and dollars is found again behind its spelling. -/
theorem map_written_named {name : String} (h : (ElementType.named name).Plain) :
    (ElementType.named name).written.toList.map (fun c => if c = '.' then '/' else c) =
      name.toList := by
  rw [ElementType.written, String.toList_map, List.map_map]
  conv_rhs => rw [← List.map_id name.toList]
  refine List.map_congr_left fun c hc => ?_
  obtain ⟨hdot, hdollar, -, -⟩ := h.1 c hc
  by_cases hslash : c = '/'
  · simp [hslash]
  · simp [hslash, hdot, hdollar]

theorem dot_not_mem_keyword (p : Primitive) : '.' ∉ p.keyword.toList := by
  cases p <;> decide

/-- The spelling of a plain name is no keyword: it would have to be the name itself. -/
theorem keyword_ne_written {p : Primitive} {name : String} (h : (ElementType.named name).Plain) :
    p.keyword ≠ (ElementType.named name).written := by
  intro heq
  have hname := map_written_named h
  rw [← heq] at hname
  have hsame : p.keyword.toList.map (fun c => if c = '.' then '/' else c) = p.keyword.toList := by
    conv_rhs => rw [← List.map_id p.keyword.toList]
    refine List.map_congr_left fun c hc => if_neg ?_
    rintro rfl
    exact dot_not_mem_keyword p hc
  exact h.2 p (String.toList_inj.mp (hname.symm.trans hsame))

theorem ElementType.written_inj {d e : ElementType} (hd : d.Plain) (he : e.Plain)
    (h : d.written = e.written) : d = e := by
  cases d with
  | primitive p =>
      cases e with
      | primitive q => rw [Primitive.keyword_inj h]
      | named name => exact absurd h (keyword_ne_written he)
  | named name =>
      cases e with
      | primitive q => exact absurd h.symm (keyword_ne_written hd)
      | named other =>
          have hnames := map_written_named hd
          rw [h, map_written_named he, String.toList_inj] at hnames
          rw [hnames]

theorem bracket_not_mem_written {e : ElementType} (h : e.Plain) : '[' ∉ e.written.toList := by
  cases e with
  | primitive p => cases p <;> decide
  | named name =>
      intro hmem
      rw [ElementType.written, String.toList_map] at hmem
      obtain ⟨c, hc, heq⟩ := List.mem_map.mp hmem
      split at heq
      · cases heq
      · exact (h.1 c hc).2.2.2 heq

/-- The brackets of an array type, one pair for each dimension. -/
theorem toList_brackets (n : Nat) : (String.join (List.replicate n "[]")).toList =
    (List.replicate n ['[', ']']).flatten := by
  rw [String.toList_join, List.flatMap_def, List.map_replicate]
  rfl

/-- What stands in front of the first bracket of a spelling is the type without dimensions. -/
theorem takeWhile_written {t : FieldType} (h : t.element.Plain) :
    t.written.toList.takeWhile (· != '[') = t.element.written.toList := by
  have hall : ∀ c ∈ t.element.written.toList, (c != '[') = true := by
    intro c hc
    rw [bne_iff_ne]
    rintro rfl
    exact bracket_not_mem_written h hc
  rw [FieldType.written, String.toList_append, toList_brackets, List.takeWhile_append_of_pos hall]
  cases t.dimensions with
  | zero => simp
  | succ n => simp [List.replicate_succ]

theorem length_written (t : FieldType) :
    t.written.toList.length = t.element.written.toList.length + t.dimensions * 2 := by
  rw [FieldType.written, String.toList_append, toList_brackets, List.length_append,
    List.length_flatten, List.map_replicate, List.sum_replicate_nat]
  rfl

/-- Different types are spelled differently. -/
theorem FieldType.written_inj {s t : FieldType} (hs : s.element.Plain) (ht : t.element.Plain)
    (h : s.written = t.written) : s = t := by
  have helement : s.element = t.element := by
    refine ElementType.written_inj hs ht (String.toList_inj.mp ?_)
    rw [← takeWhile_written hs, h, takeWhile_written ht]
  have hlength := length_written s
  rw [h, length_written t, helement] at hlength
  have hdimensions : s.dimensions = t.dimensions := by omega
  cases s
  cases t
  simp_all

/-! ## Brackets as bytes -/

/-- The number of brackets in front of a descriptor. -/
def bracketCount (text : String) : Nat := (text.toList.takeWhile (· == '[')).length

/-- A bracket is one byte. -/
theorem length_encode_brackets {cs : List Char} (h : ∀ c ∈ cs, (c == '[') = true) :
    (cs.flatMap String.utf8EncodeChar).length = cs.length := by
  induction cs with
  | nil => rfl
  | cons c cs ih =>
      obtain rfl : c = '[' := beq_iff_eq.mp (h c List.mem_cons_self)
      rw [List.flatMap_cons, List.length_append, ih fun d hd => h d (List.mem_cons_of_mem _ hd),
        List.length_cons, Nat.add_comm]
      rfl

/-- The byte behind the brackets is the first one of what follows them. -/
theorem encode_brackets (text : String) :
    ∃ front, front.length = bracketCount text ∧ Text.Utf8.encode text =
      front ++ Text.Utf8.encode (String.ofList (text.toList.dropWhile (· == '['))) := by
  refine ⟨(text.toList.takeWhile (· == '[')).flatMap String.utf8EncodeChar,
    length_encode_brackets fun c hc => List.mem_takeWhile_imp (p := (· == '[')) hc, ?_⟩
  rw [Text.Utf8.encode_eq_flatMap, Text.Utf8.encode_eq_flatMap, String.toList_ofList,
    ← List.flatMap_append, List.takeWhile_append_dropWhile]

/-- Reading a descriptor gives the type that it was made from, and different types look different
if their names are plain. Whatever the text, the brackets in front of it can be cut off as bytes, and
what is left of them is the text that is read on. -/
theorem descriptors_read :
    (∀ t : FieldType, descriptorType t.descriptor = t.written) ∧
      (∀ s t : FieldType, s.element.Plain → t.element.Plain → s ≠ t →
        descriptorType s.descriptor ≠ descriptorType t.descriptor) ∧
      ∀ text : String, Text.Utf8.IsBoundary (Text.Utf8.encode text) (bracketCount text) ∧
        ∃ element, (Text.Utf8.encode text).drop (bracketCount text) = Text.Utf8.encode element ∧
          descriptorType text =
            elementType element.toList ++ String.join (List.replicate (bracketCount text) "[]") := by
  refine ⟨descriptorType_descriptor, ?_, ?_⟩
  · intro s t hs ht hne heq
    rw [descriptorType_descriptor, descriptorType_descriptor] at heq
    exact hne (FieldType.written_inj hs ht heq)
  · intro text
    obtain ⟨front, hfront, hencode⟩ := encode_brackets text
    rw [hencode, ← hfront]
    refine ⟨Text.Utf8.isBoundary_append _ _, _, List.drop_left, ?_⟩
    rw [hfront, descriptorType, String.toList_ofList]
    rfl

/-- A class whose name is the letter of a primitive type. -/
theorem descriptors_read_lookalike :
    (ElementType.named "I").Plain ∧ (ElementType.primitive .int).Plain ∧
      (FieldType.mk 1 (.named "I")).descriptor = "[LI;" ∧
      (FieldType.mk 1 (.primitive .int)).descriptor = "[I" ∧
      descriptorType "[LI;" ≠ descriptorType "[I" := by
  have hplain : (ElementType.named "I").Plain := by
    refine ⟨fun c hc => ?_, fun p => ?_⟩
    · obtain rfl : c = 'I' := List.mem_singleton.mp hc
      decide
    · cases p <;> decide
  have hne : FieldType.mk 1 (.named "I") ≠ FieldType.mk 1 (.primitive .int) := by decide
  have hname : (FieldType.mk 1 (.named "I")).descriptor = "[LI;" := by decide
  have hletter : (FieldType.mk 1 (.primitive .int)).descriptor = "[I" := by decide
  have hdiffer := descriptors_read.2.1 ⟨1, .named "I"⟩ ⟨1, .primitive .int⟩ hplain trivial hne
  rw [hname, hletter] at hdiffer
  exact ⟨hplain, trivial, hname, hletter, hdiffer⟩

end SuiteLint.ClassFile
