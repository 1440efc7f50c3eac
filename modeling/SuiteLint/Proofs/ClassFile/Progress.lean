import SuiteLint.Proofs.ClassFile.Cursor

/-!
# Progress and bounds of reading

Attributes are read under counts that the file may set at will. What ends the reading all the same
is that an annotation takes at least four bytes and a value at least three
(`reading_progresses`): no count is followed further than there are bytes. The pool of constants is
as long as its count says, or one slot longer if a long or double begins in the last slot
(`length_slots_read`).
-/

namespace SuiteLint.ClassFile

/-! ## The size of a pool -/

theorem Reader.exists_of_bind_eq_ok {α β : Type} {r : Reader α} {k : α → Reader β}
    {input rest : List UInt8} {b : β} (h : (r >>= k) input = .ok (b, rest)) :
    ∃ a mid, r input = .ok (a, mid) ∧ k a mid = .ok (b, rest) := by
  cases hr : r input with
  | error e =>
      rw [Reader.bind_of_error hr] at h
      cases h
  | ok result =>
      obtain ⟨a, mid⟩ := result
      rw [Reader.bind_of_ok hr] at h
      exact ⟨a, mid, rfl, h⟩

/-- One slot more than asked for is filled exactly if a wide constant begins in the last one, where
slot zero stands in front. -/
theorem length_readSlots {n : Nat} {input rest : List UInt8} {slots : List Constant}
    (h : ConstantPool.readSlots n input = .ok (slots, rest)) :
    slots.length = if (.unused :: slots)[n]? = some Constant.wide then n + 1 else n := by
  -- A wide constant uses up two of the slots, so the induction is over all smaller numbers.
  induction n using Nat.strongRecOn generalizing input slots with
  | ind n ih =>
      cases n with
      | zero =>
          rw [ConstantPool.readSlots] at h
          cases h
          rfl
      | succ n =>
          rw [ConstantPool.readSlots] at h
          obtain ⟨constant, mid, -, h⟩ := Reader.exists_of_bind_eq_ok h
          split at h
          · obtain ⟨more, mid', hmore, h⟩ := Reader.exists_of_bind_eq_ok h
            cases h
            have hlength := ih (n - 1) (by omega) hmore
            cases n with
            | zero => simpa using hlength
            | succ n =>
                simp only [Nat.add_sub_cancel] at hlength
                simp only [List.getElem?_cons_succ, List.length_cons, hlength]
                split <;> rfl
          · rename_i hnarrow
            obtain ⟨more, mid', hmore, h⟩ := Reader.exists_of_bind_eq_ok h
            cases h
            have hlength := ih n (by omega) hmore
            cases n with
            | zero => simpa [hnarrow] using hlength
            | succ n =>
                simp only [List.getElem?_cons_succ, List.length_cons] at hlength ⊢
                rw [hlength]
                split <;> rfl

/-- A pool is as long as its count says, but holds the unused slot in any case, and both slots of a
long or double that begins in the last one. -/
theorem length_slots_read {input rest : List UInt8} {pool : ConstantPool}
    (h : ConstantPool.read input = .ok (pool, rest)) :
    ∃ count mid, Reader.u16 input = .ok (count, mid) ∧
      pool.slots.length = if pool.slots[count - 1]? = some .wide then count + 1 else max count 1 := by
  obtain ⟨count, mid, hcount, h⟩ := Reader.exists_of_bind_eq_ok h
  obtain ⟨slots, mid', hslots, h⟩ := Reader.exists_of_bind_eq_ok h
  cases h
  refine ⟨count, mid, hcount, ?_⟩
  rw [List.length_cons, length_readSlots hslots]
  cases count with
  | zero => rfl
  | succ count =>
      simp only [Nat.add_sub_cancel]
      split
      · rfl
      · omega

/-! ## Progress -/

section Progress

open Cursor

/-- From every position in the bytes, reading an annotation or passing over a value comes to an end
inside the bytes, as do all operations of readers and the reading of a pool; on success each has gone
as far as its number says. -/
theorem reading_progresses (input : Input) (pool : ConstantPool) (pos : Nat)
    (hpos : pos ≤ input.length) :
    Settles input 4 pos (input.readAnnotationName pool) (Annotations.read pool) ∧
      Settles input 3 pos (input.skipValue pool) (Annotations.skipValue pool) ∧
      (∀ n, Settles input n pos (input.bytes n) (Reader.bytes n)) ∧
      (∀ n, Settles input n pos (input.skip n) (Reader.skip n)) ∧
      Settles input 1 pos input.u8 Reader.u8 ∧
      Settles input 2 pos input.u16 Reader.u16 ∧
      Settles input 4 pos input.u32 Reader.u32 ∧
      Settles input 2 pos input.readPool ConstantPool.read ∧
      ∀ p rest, ConstantPool.read (input.drop pos) = .ok (p, rest) →
        ∃ count mid, Reader.u16 (input.drop pos) = .ok (count, mid) ∧
          p.slots.length = if p.slots[count - 1]? = some .wide then count + 1 else max count 1 := by
  have settles : ∀ {α : Type} {least : Nat} {c : Cursor α} {r : Reader α},
      Follows input input.length least c r → Settles input least pos c r :=
    fun h => h pos hpos (Nat.sub_le _ _)
  exact ⟨settles follows_readAnnotationName, settles follows_skipValue,
    fun n => settles (follows_bytes n), fun n => settles (follows_skip n), settles follows_u8,
    settles follows_u16, settles follows_u32, settles follows_readPool,
    fun p rest h => length_slots_read h⟩

/-- A byte in front, and the annotation `@Tag({1})` with one byte too few. -/
def cutArray : List UInt8 := [0, 0, 1, 0, 1, 0, 0, 0x5B, 0, 1, 0x49, 0]

/-- A pool with the name of an annotation type. -/
def tagPool : ConstantPool := ⟨[.unused, .utf8 "Ljava/Tag;"]⟩

/-- A pool of two slots, in the last of which a long begins. -/
def longPoolBytes : List UInt8 := [0, 2, 5, 0, 0, 0, 0, 0, 0, 0, 7]

/-- The annotation that is complete ends where the bytes end, and the one that is cut short does not
end behind them. The pool is one slot longer than its count. -/
theorem reading_progresses_array :
    1 ≤ (cutArray ++ [7]).length ∧ 1 ≤ cutArray.length ∧
      (Input.readAnnotationName (cutArray ++ [7]) tagPool).runAt 1 = some (.ok "Tag", 13) ∧
      (∃ pos' ≤ 12, (Input.readAnnotationName cutArray tagPool).runAt 1 =
        some (.error .truncated, pos')) ∧
      ConstantPool.read longPoolBytes = .ok (⟨[.unused, .wide, .unused]⟩, []) ∧
      ∃ count mid, Reader.u16 longPoolBytes = .ok (count, mid) ∧ 3 = count + 1 := by
  have hwhole : Annotations.read tagPool ((cutArray ++ [7]).drop 1) = .ok ("Tag", []) := by
    decide +kernel
  have hcut : Annotations.read tagPool (cutArray.drop 1) = .error .truncated := by decide +kernel
  have htwo : Reader.u16 longPoolBytes = .ok (2, longPoolBytes.drop 2) := by decide +kernel
  have hslots : ConstantPool.readSlots 1 (longPoolBytes.drop 2) = .ok ([.wide, .unused], []) := by
    decide +kernel
  have hpool : ConstantPool.read longPoolBytes = .ok (⟨[.unused, .wide, .unused]⟩, []) :=
    (Reader.bind_of_ok htwo).trans (Reader.bind_of_ok hslots)
  refine ⟨by decide, by decide, ?_, ?_, hpool, ?_⟩
  · obtain ⟨result, pos', hrun, hread, -, hinside, -⟩ :=
      (reading_progresses (cutArray ++ [7]) tagPool 1 (by decide)).1
    rw [hwhole] at hread
    cases result with
    | error e => cases hread
    | ok name =>
        obtain ⟨rfl, hrest⟩ := Prod.mk.inj (Except.ok.inj hread)
        have hlast : (cutArray ++ [7]).length ≤ pos' := List.drop_eq_nil_iff.mp hrest.symm
        obtain rfl : pos' = 13 := Nat.le_antisymm hinside hlast
        exact hrun
  · obtain ⟨result, pos', hrun, hread, -, hinside, -⟩ :=
      (reading_progresses cutArray tagPool 1 (by decide)).1
    rw [hcut] at hread
    cases result with
    | error e =>
        obtain rfl := Except.error.inj hread
        exact ⟨pos', hinside, hrun⟩
    | ok name => cases hread
  · obtain ⟨-, -, -, -, -, -, -, -, hlength⟩ :=
      reading_progresses longPoolBytes tagPool 0 (by decide)
    obtain ⟨count, mid, hcount, hslots⟩ := hlength _ _ hpool
    obtain ⟨rfl, rfl⟩ := Prod.mk.inj (Except.ok.inj (hcount.symm.trans htwo))
    exact ⟨2, _, htwo, hslots⟩

end Progress

end SuiteLint.ClassFile
