import SuiteLint.Proofs.ClassFile.Truncation

/-!
# Reading at a position

The readers of class files hand the bytes that are left from one to the next. Here the same readers
work at a position in fixed bytes, with two things to be seen that a list of bytes left over does not
show: where a reader stands when it fails, and whether it comes to an end at all. No bound stands in
front of the recursion of annotations or the loop over constants; a run that goes on for ever would
be `none`.

`Settles` says that such a run ends inside the bytes, on success a number of bytes further, and gives
what the reader gives that is handed the bytes from there. The law for one reader behind the other
(`Follows.bind`) is all that the readers without recursion need. In the recursion of annotations the
tag of a value is what makes the bytes at hand fewer (`follows_skipWithin`), whatever the counts say;
the loop over constants has fewer slots to fill at each turn, whatever the bytes say
(`follows_fillSlots`).
-/

namespace SuiteLint.ClassFile

/-- A reader at a position in fixed bytes. It stands somewhere also when it fails; a run without an
end is `none`. -/
abbrev Cursor (α : Type) := ExceptT FormatError (StateT Nat Option) α

/-- Runs a reader from a position on. -/
def Cursor.runAt {α : Type} (c : Cursor α) (pos : Nat) : Option (Except FormatError α × Nat) :=
  (ExceptT.run c).run pos

/-- The bytes that a reader moves in. -/
abbrev Input := List UInt8

/-! ## Readers -/

namespace Input

section Operations

variable (input : Input)

/-- Takes `n` bytes; where there are not as many, it fails without a move. -/
def bytes (n : Nat) : Cursor (List UInt8) := do
  let pos ← get
  if pos + n ≤ input.length then
    set (pos + n)
    return (input.drop pos).take n
  else throw .truncated

/-- Passes over `n` bytes. -/
def skip (n : Nat) : Cursor Unit := do
  let _ ← input.bytes n

/-- Takes one byte. -/
def u8 : Cursor UInt8 := do
  return (← input.bytes 1).headD 0

/-- Takes a number of two bytes. -/
def u16 : Cursor Nat := do
  return Reader.number (← input.bytes 2)

/-- Takes a number of four bytes. -/
def u32 : Cursor Nat := do
  return Reader.number (← input.bytes 4)

/-- Reads an index and gives the text there. -/
def readUtf8 (pool : ConstantPool) : Cursor String := do
  MonadExcept.ofExcept (pool.utf8 (← input.u16))

end Operations

mutual

/-- Reads an annotation. -/
def readAnnotationName (input : Input) (pool : ConstantPool) : Cursor String := do
  let type ← input.readUtf8 pool
  input |>.skipElements pool (← input.u16)
  return annotationName type
partial_fixpoint

/-- Passes over `n` values with their names. -/
def skipElements (input : Input) (pool : ConstantPool) (n : Nat) : Cursor Unit :=
  match n with
  | 0 => return ()
  | n + 1 => do
    input.skip 2
    input |>.skipValue pool
    input |>.skipElements pool n
partial_fixpoint

/-- Passes over a value. -/
def skipValue (input : Input) (pool : ConstantPool) : Cursor Unit := do
  let tag ← input.u8
  if Annotations.isIndexTag tag then input.skip 2
  else if tag == 0x65 then input.skip 4
  else if tag == 0x40 then do
    let _ ← input |>.readAnnotationName pool
  else if tag == 0x5B then do
    input |>.skipValues pool (← input.u16)
  else throw (.unknownElement tag)
partial_fixpoint

/-- Passes over `n` values. -/
def skipValues (input : Input) (pool : ConstantPool) (n : Nat) : Cursor Unit :=
  match n with
  | 0 => return ()
  | n + 1 => do
    input |>.skipValue pool
    input |>.skipValues pool n
partial_fixpoint

end

section Constants

variable (input : Input)

/-- Reads a constant behind its tag. -/
def readTagged (tag : UInt8) : Cursor Constant :=
  if tag == 1 then do
    let size ← input.u16
    return .utf8 (Text.Utf8.decodeLossy (← input.bytes size))
  else if tag == 7 then do
    return .classRef (← input.u16)
  else if tag == 5 || tag == 6 then do
    input.skip 8
    return .wide
  else
    match Constant.otherSize? tag with
    | some size => do
      input.skip size
      return .other
    | none => throw (.unknownConstant tag)

/-- Reads a constant. -/
def readConstant : Cursor Constant := do
  input.readTagged (← input.u8)

end Constants

/-- Reads constants as long as there are fewer slots than `count`. -/
def fillSlots (input : Input) (count : Nat) (slots : List Constant) : Cursor (List Constant) := do
  if slots.length < count then
    let constant ← input.readConstant
    if constant = .wide then input |>.fillSlots count (slots ++ [.wide, .unused])
    else input |>.fillSlots count (slots ++ [constant])
  else return slots
partial_fixpoint

/-- Reads a pool behind its count, which counts the unused slot zero. -/
def readPool (input : Input) : Cursor ConstantPool := do
  let count ← input.u16
  return ⟨← input.fillSlots count [.unused]⟩

end Input

namespace Cursor

variable {α β : Type}

/-! ## Runs that end -/

theorem runAt_bind_of_ok {c : Cursor α} {k : α → Cursor β} {pos mid : Nat} {a : α}
    (h : c.runAt pos = some (.ok a, mid)) : (c >>= k).runAt pos = (k a).runAt mid := by
  show (c.runAt pos >>= fun p => ExceptT.bindCont k p.1 p.2) = _
  rw [h]
  rfl

theorem runAt_bind_of_error {c : Cursor α} {k : α → Cursor β} {pos mid : Nat} {e : FormatError}
    (h : c.runAt pos = some (.error e, mid)) : (c >>= k).runAt pos = some (.error e, mid) := by
  show (c.runAt pos >>= fun p => ExceptT.bindCont k p.1 p.2) = _
  rw [h]
  rfl

theorem runAt_bytes (input : Input) (n pos : Nat) :
    (input.bytes n).runAt pos =
      if pos + n ≤ input.length then some (.ok ((input.drop pos).take n), pos + n)
      else some (.error .truncated, pos) := by
  have hget : (get : Cursor Nat).runAt pos = some (.ok pos, pos) := rfl
  rw [Input.bytes, runAt_bind_of_ok hget]
  split <;> rfl

variable (input : Input)

/-- A run from `pos` on ends inside the bytes, on success at least `least` bytes further. What it
gives is what the reader gives that is handed the bytes from there. -/
def Settles (least pos : Nat) (c : Cursor α) (r : Reader α) : Prop :=
  ∃ result pos', c.runAt pos = some (result, pos') ∧
    r (input.drop pos) = result.map (·, input.drop pos') ∧
    pos ≤ pos' ∧ pos' ≤ input.length ∧ ∀ a, result = .ok a → pos + least ≤ pos'

/-- Runs settle wherever no more than `room` bytes are left. -/
def Follows (room least : Nat) (c : Cursor α) (r : Reader α) : Prop :=
  ∀ pos ≤ input.length, input.length - pos ≤ room → Settles input least pos c r

namespace Follows

variable {input : Input} {room least m : Nat} {c : Cursor α} {r : Reader α}

theorem mono {room' least' : Nat} (h : Follows input room least c r) (hroom : room' ≤ room)
    (hleast : least' ≤ least) : Follows input room' least' c r := by
  intro pos hpos hleft
  obtain ⟨result, pos', hrun, hread, hback, hinside, hfar⟩ := h pos hpos (by omega)
  exact ⟨result, pos', hrun, hread, hback, hinside, fun a ha => by have := hfar a ha; omega⟩

theorem pure (a : α) : Follows input room 0 (pure a) (Pure.pure a) := fun pos hpos _ =>
  ⟨.ok a, pos, rfl, rfl, Nat.le_refl pos, hpos, fun _ _ => Nat.le_refl pos⟩

theorem fail (e : FormatError) : Follows input room least (throw e : Cursor α) (Reader.fail e) :=
  fun pos hpos _ => ⟨.error e, pos, rfl, rfl, Nat.le_refl pos, hpos, nofun⟩

/-- What the first reader takes is no longer at hand for the second one. -/
theorem bind {k : α → Cursor β} {k' : α → Reader β} (h : Follows input room least c r)
    (hk : ∀ a, Follows input (room - least) m (k a) (k' a)) :
    Follows input room (least + m) (c >>= k) (r >>= k') := by
  intro pos hpos hroom
  obtain ⟨result, mid, hrun, hread, hback, hinside, hfar⟩ := h pos hpos hroom
  cases result with
  | error e =>
      exact ⟨.error e, mid, runAt_bind_of_error hrun, Reader.bind_of_error hread, hback, hinside,
        nofun⟩
  | ok a =>
      have hmid := hfar a rfl
      obtain ⟨result, pos', hrun', hread', hback', hinside', hfar'⟩ :=
        hk a mid hinside (by omega)
      refine ⟨result, pos', (runAt_bind_of_ok hrun).trans hrun',
        (Reader.bind_of_ok hread).trans hread', by omega, hinside', fun b hb => ?_⟩
      have := hfar' b hb
      omega

theorem weaken {least' : Nat} (h : Follows input room least c r) (hleast : least' ≤ least) :
    Follows input room least' c r := h.mono (Nat.le_refl room) hleast

/-- One reader behind the other, where it does not matter that fewer bytes are left. -/
theorem seq {k : α → Cursor β} {k' : α → Reader β} (h : Follows input room least c r)
    (hk : ∀ a, Follows input room m (k a) (k' a)) :
    Follows input room (least + m) (c >>= k) (r >>= k') :=
  h.bind fun a => (hk a).mono (Nat.sub_le room least) (Nat.le_refl m)

end Follows

/-! ## Bytes and numbers -/

section Operations

variable {input : Input} {room : Nat}

theorem follows_bytes (n : Nat) : Follows input room n (input.bytes n) (Reader.bytes n) := by
  intro pos hpos _
  by_cases h : pos + n ≤ input.length
  · have hlength : ((input.drop pos).take n).length = n := by
      rw [List.length_take, List.length_drop]
      omega
    have hread := Reader.reads_bytes hlength ((input.drop pos).drop n)
    rw [List.take_append_drop, List.drop_drop] at hread
    exact ⟨_, pos + n, (runAt_bytes input n pos).trans (if_pos h), hread, Nat.le_add_right pos n, h,
      fun _ _ => Nat.le_refl _⟩
  · have hshort : (input.drop pos).length < n := by
      rw [List.length_drop]
      omega
    exact ⟨_, pos, (runAt_bytes input n pos).trans (if_neg h), Reader.bytes_of_length_lt hshort,
      Nat.le_refl pos, hpos, nofun⟩

theorem follows_skip (n : Nat) : Follows input room n (input.skip n) (Reader.skip n) :=
  (follows_bytes n).seq fun _ => Follows.pure ()

theorem u8_eq : Reader.u8 = (do return (← Reader.bytes 1).headD 0) := by
  funext bs
  cases bs <;> rfl

theorem follows_u8 : Follows input room 1 input.u8 Reader.u8 := by
  rw [u8_eq]
  exact (follows_bytes 1).seq fun _ => Follows.pure _

theorem follows_u16 : Follows input room 2 input.u16 Reader.u16 :=
  (follows_bytes 2).seq fun _ => Follows.pure _

theorem follows_u32 : Follows input room 4 input.u32 Reader.u32 :=
  (follows_bytes 4).seq fun _ => Follows.pure _

theorem follows_ofExcept (result : Except FormatError α) :
    Follows input room 0 (MonadExcept.ofExcept result) (Reader.ofExcept result) := by
  cases result with
  | error e => exact Follows.fail e
  | ok a => exact Follows.pure a

theorem follows_readUtf8 (pool : ConstantPool) :
    Follows input room 2 (input.readUtf8 pool) pool.readUtf8 :=
  follows_u16.seq fun _ => follows_ofExcept _

end Operations

/-! ## Annotations -/

section Annotations

variable {input : Input} {room : Nat} {pool : ConstantPool} {value : Reader Unit}

/-- Reads `n` times and forgets the values. -/
def passes (n : Nat) (r : Reader α) : Reader Unit := do
  let _ ← Reader.times n r

theorem passes_succ (n : Nat) (r : Reader α) : passes (n + 1) r = (do let _ ← r; passes n r) := by
  simp [passes, Reader.times]

theorem counted_bind (r : Reader α) (b : β) :
    (do let _ ← Reader.counted r; return b) = (do passes (← Reader.u16) r; return b) := by
  simp [passes, Reader.counted]

theorem counted_forget (r : Reader α) :
    (do let _ ← Reader.counted r) = (do passes (← Reader.u16) r) := by
  simp [passes, Reader.counted]

theorem follows_skipElements (h : Follows input room 3 (input.skipValue pool) value) (n : Nat) :
    Follows input room 0 (input.skipElements pool n) (passes n (do Reader.skip 2; value)) := by
  induction n with
  | zero =>
      rw [Input.skipElements]
      exact Follows.pure ()
  | succ n ih =>
      rw [Input.skipElements, passes_succ, bind_assoc]
      exact ((follows_skip 2).seq fun _ => h.seq fun _ => ih).weaken (Nat.zero_le _)

theorem follows_skipValues (h : Follows input room 3 (input.skipValue pool) value) (n : Nat) :
    Follows input room 0 (input.skipValues pool n) (passes n value) := by
  induction n with
  | zero =>
      rw [Input.skipValues]
      exact Follows.pure ()
  | succ n ih =>
      rw [Input.skipValues, passes_succ]
      exact (h.seq fun _ => ih).weaken (Nat.zero_le _)

/-- An annotation takes the index of its type and the number of its values at least. -/
theorem follows_readWith (h : Follows input room 3 (input.skipValue pool) value) :
    Follows input room 4 (input.readAnnotationName pool) (Annotations.readWith pool value) := by
  rw [Input.readAnnotationName, Annotations.readWith]
  simp only [counted_bind]
  exact (follows_readUtf8 pool).seq fun _ => follows_u16.seq fun n =>
    (follows_skipElements h n).seq fun _ => Follows.pure _

/-- Each level of a value takes a byte, so a bound on the levels that is no less than the number of
bytes at hand is never felt. -/
theorem follows_skipWithin (depth : Nat) :
    Follows input depth 3 (input.skipValue pool) (Annotations.skipWithin pool depth) := by
  induction depth with
  | zero =>
      -- No byte is left, so the tag is missing.
      intro pos hpos hroom
      have htag := runAt_bytes input 1 pos
      rw [if_neg (by omega)] at htag
      refine ⟨.error .truncated, pos, ?_, rfl, Nat.le_refl pos, hpos, nofun⟩
      rw [Input.skipValue]
      exact runAt_bind_of_error (runAt_bind_of_error htag)
  | succ depth ih =>
      rw [Input.skipValue, Annotations.skipWithin]
      refine follows_u8.bind (m := 2) fun tag => ?_
      rw [Nat.add_sub_cancel]
      split
      · exact follows_skip 2
      split
      · exact (follows_skip 4).weaken (by decide)
      split
      · exact ((follows_readWith ih).seq fun _ => Follows.pure ()).weaken (by decide)
      split
      · rw [counted_forget]
        exact follows_u16.seq fun n => follows_skipValues ih n
      · exact Follows.fail _

theorem follows_skipValue :
    Follows input room 3 (input.skipValue pool) (Annotations.skipValue pool) := by
  intro pos hpos _
  have hroom : (input.drop pos).length = input.length - pos := List.length_drop
  have h : Follows input (input.drop pos).length 3 (input.skipValue pool)
      (Annotations.skipWithin pool (input.drop pos).length) := follows_skipWithin _
  exact h pos hpos (by omega)

theorem follows_readAnnotationName :
    Follows input room 4 (input.readAnnotationName pool) (Annotations.read pool) :=
  follows_readWith follows_skipValue

end Annotations

/-! ## Constants -/

section Constants

variable {input : Input} {room : Nat}

theorem follows_readTagged (tag : UInt8) :
    Follows input room 0 (input.readTagged tag) (Constant.readTagged tag) := by
  unfold Input.readTagged Constant.readTagged
  split
  · refine (follows_u16.seq (m := 0) fun size => ?_).weaken (Nat.zero_le 2)
    exact ((follows_bytes size).seq fun _ => Follows.pure _).weaken (Nat.zero_le _)
  split
  · exact (follows_u16.seq fun _ => Follows.pure _).weaken (Nat.zero_le 2)
  split
  · exact ((follows_skip 8).seq fun _ => Follows.pure _).weaken (Nat.zero_le 8)
  cases Constant.otherSize? tag with
  | some size => exact ((follows_skip size).seq fun _ => Follows.pure _).weaken (Nat.zero_le _)
  | none => exact Follows.fail _

theorem follows_readConstant : Follows input room 1 input.readConstant Constant.read :=
  follows_u8.seq follows_readTagged

/-- Reads `n` slots behind some others. -/
def readSlotsBehind (slots : List Constant) (n : Nat) : Reader (List Constant) := do
  return slots ++ (← ConstantPool.readSlots n)

theorem readSlotsBehind_zero (slots : List Constant) :
    readSlotsBehind slots 0 = (do return slots) := by
  simp [readSlotsBehind, ConstantPool.readSlots]

theorem readSlotsBehind_succ (slots : List Constant) (n : Nat) :
    readSlotsBehind slots (n + 1) = (do
      let constant ← Constant.read
      if constant = .wide then readSlotsBehind (slots ++ [.wide, .unused]) (n - 1)
      else readSlotsBehind (slots ++ [constant]) n) := by
  rw [readSlotsBehind, ConstantPool.readSlots]
  simp only [readSlotsBehind, bind_assoc]
  congr 1
  funext constant
  split <;> simp

/-- The loop is done with one slot fewer to fill, or two, at each turn. -/
theorem follows_fillSlots (count : Nat) (slots : List Constant) :
    Follows input room 0 (input.fillSlots count slots)
      (readSlotsBehind slots (count - slots.length)) := by
  induction hn : count - slots.length using Nat.strongRecOn generalizing slots with
  | ind n ih =>
      rw [Input.fillSlots]
      cases n with
      | zero =>
          rw [if_neg (by omega), readSlotsBehind_zero]
          exact Follows.pure slots
      | succ n =>
          rw [if_pos (by omega), readSlotsBehind_succ]
          refine (follows_readConstant.seq (m := 0) fun constant => ?_).weaken (Nat.zero_le 1)
          split
          · exact ih (n - 1) (by omega) _ (by simp; omega)
          · exact ih n (by omega) _ (by simp; omega)

theorem follows_readPool : Follows input room 2 input.readPool ConstantPool.read := by
  refine follows_u16.seq (m := 0) fun count => ?_
  have hslots : Follows input room 0 (input.fillSlots count [.unused])
      (readSlotsBehind [.unused] (count - 1)) := follows_fillSlots count [.unused]
  simpa [readSlotsBehind] using hslots.seq fun slots => Follows.pure (ConstantPool.mk slots)

end Constants

end Cursor

end SuiteLint.ClassFile
