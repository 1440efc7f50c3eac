import Mathlib.Control.Monad.Basic
import SuiteLint.ClassFile.CompiledClass
import SuiteLint.Proofs.ClassFile.Bytes

/-!
# Class files that are cut short or continued

A reader is `Steady` if it depends on nothing but the bytes that it takes: what follows them makes
no difference, every shorter input is reported as truncated, and any other error stays when bytes
are added behind. Steady readers one behind the other are steady (`Steady.bind`), and so are all
readers that a class file is read with. The body of an attribute is taken as a whole before its
annotations are looked for, so a cut is noticed before anything in the body is
(`steady_attribute`). `decode_stable` draws the conclusion for whole files.
-/

namespace SuiteLint.ClassFile

namespace Reader

variable {α β : Type}

/-- The reader takes exactly these bytes, and misses something on anything shorter. -/
structure Takes (r : Reader α) (bs : List UInt8) (a : α) : Prop where
  reads : Reads r bs a
  cut : ∀ k < bs.length, r (bs.take k) = .error .truncated

/-- The reader depends only on the bytes that it takes. -/
structure Steady (r : Reader α) : Prop where
  takes : ∀ {input rest : List UInt8} {a : α}, r input = .ok (a, rest) →
    ∃ bs, input = bs ++ rest ∧ Takes r bs a
  refuses : ∀ {input : List UInt8} {e : FormatError}, r input = .error e → e ≠ .truncated →
    ∀ more, r (input ++ more) = .error e

/-! ## One reader behind the other -/

theorem bind_of_ok {r : Reader α} {k : α → Reader β} {input rest : List UInt8} {a : α}
    (h : r input = .ok (a, rest)) : (r >>= k) input = k a rest := by
  show (r input >>= fun p => k p.1 p.2) = _
  rw [h]
  rfl

theorem bind_of_error {r : Reader α} {k : α → Reader β} {input : List UInt8} {e : FormatError}
    (h : r input = .error e) : (r >>= k) input = .error e := by
  show (r input >>= fun p => k p.1 p.2) = _
  rw [h]
  rfl

theorem Takes.bind {r : Reader α} {k : α → Reader β} {bs cs : List UInt8} {a : α} {b : β}
    (h : Takes r bs a) (hk : Takes (k a) cs b) : Takes (r >>= k) (bs ++ cs) b := by
  refine ⟨h.reads.bind hk.reads, fun n hn => ?_⟩
  rcases Nat.lt_or_ge n bs.length with hlt | hge
  · -- The cut is inside the bytes of the first reader.
    rw [List.take_append_of_le_length (Nat.le_of_lt hlt)]
    exact bind_of_error (h.cut n hlt)
  · have hcut := hk.cut (n - bs.length) (by rw [List.length_append] at hn; omega)
    rw [List.take_append, List.take_of_length_le hge, bind_of_ok (h.reads _), hcut]

theorem Steady.bind {r : Reader α} {k : α → Reader β} (h : Steady r) (hk : ∀ a, Steady (k a)) :
    Steady (r >>= k) := by
  constructor
  · intro input rest b hok
    cases hr : r input with
    | error e =>
        rw [bind_of_error hr] at hok
        cases hok
    | ok result =>
        obtain ⟨a, mid⟩ := result
        rw [bind_of_ok hr] at hok
        obtain ⟨bs, rfl, hbs⟩ := h.takes hr
        obtain ⟨cs, rfl, hcs⟩ := (hk a).takes hok
        exact ⟨bs ++ cs, (List.append_assoc bs cs rest).symm, hbs.bind hcs⟩
  · intro input e herror hne more
    cases hr : r input with
    | error e' =>
        rw [bind_of_error hr] at herror
        cases herror
        exact bind_of_error (h.refuses hr hne more)
    | ok result =>
        obtain ⟨a, mid⟩ := result
        rw [bind_of_ok hr] at herror
        obtain ⟨bs, rfl, hbs⟩ := h.takes hr
        rw [List.append_assoc, bind_of_ok (hbs.reads _)]
        exact (hk a).refuses herror hne more

theorem steady_pure (a : α) : Steady (pure a : Reader α) where
  takes := by
    rintro input rest b ⟨⟩
    exact ⟨[], rfl, Reads.pure a, fun k hk => absurd hk (Nat.not_lt_zero k)⟩
  refuses := fun h => nomatch h

theorem steady_fail (e : FormatError) : Steady (fail e : Reader α) where
  takes := fun h => nomatch h
  refuses := by
    rintro input e' ⟨⟩ - more
    rfl

theorem steady_ofExcept (result : Except FormatError α) : Steady (ofExcept result) := by
  cases result with
  | error e => exact steady_fail e
  | ok a => exact steady_pure a

/-! ## Bytes and numbers -/

theorem splitExact?_eq_some {n : Nat} {xs front back : List α}
    (h : splitExact? n xs = some (front, back)) : xs = front ++ back ∧ front.length = n := by
  induction n generalizing xs front with
  | zero =>
      cases h
      exact ⟨rfl, rfl⟩
  | succ n ih =>
      cases xs with
      | nil => cases h
      | cons x xs =>
          obtain ⟨⟨front', back'⟩, hsplit, heq⟩ := Option.map_eq_some_iff.mp h
          cases heq
          obtain ⟨rfl, rfl⟩ := ih hsplit
          exact ⟨rfl, rfl⟩

theorem splitExact?_eq_none {n : Nat} {xs : List α} (h : xs.length < n) :
    splitExact? n xs = none := by
  cases hsplit : splitExact? n xs with
  | none => rfl
  | some result =>
      obtain ⟨rfl, hlength⟩ := splitExact?_eq_some hsplit
      rw [List.length_append] at h
      omega

theorem bytes_of_length_lt {n : Nat} {input : List UInt8} (h : input.length < n) :
    bytes n input = .error .truncated := by
  rw [bytes, splitExact?_eq_none h]

theorem steady_bytes (n : Nat) : Steady (bytes n) := by
  constructor
  · intro input rest bs hok
    rw [bytes] at hok
    split at hok
    · rename_i result hsplit
      cases hok
      obtain ⟨heq, hlength⟩ := splitExact?_eq_some hsplit
      refine ⟨bs, heq, reads_bytes hlength, fun k hk => bytes_of_length_lt ?_⟩
      rw [List.length_take]
      omega
    · cases hok
  · intro input e herror hne
    rw [bytes] at herror
    split at herror
    · cases herror
    · cases herror
      exact absurd rfl hne

theorem steady_skip (n : Nat) : Steady (skip n) := (steady_bytes n).bind fun _ => steady_pure ()

theorem steady_u8 : Steady u8 := by
  constructor
  · intro input rest b hok
    cases input with
    | nil => cases hok
    | cons c input =>
        cases hok
        refine ⟨[b], rfl, reads_u8 b, fun k hk => ?_⟩
        obtain rfl : k = 0 := Nat.lt_one_iff.mp hk
        rfl
  · intro input e herror hne
    cases input with
    | nil =>
        cases herror
        exact absurd rfl hne
    | cons c input => cases herror

theorem steady_u16 : Steady u16 := (steady_bytes 2).bind fun _ => steady_pure _

theorem steady_u32 : Steady u32 := (steady_bytes 4).bind fun _ => steady_pure _

/-! ## Many values -/

theorem steady_times {r : Reader α} (h : Steady r) (n : Nat) : Steady (times n r) := by
  induction n with
  | zero => exact steady_pure []
  | succ n ih => exact h.bind fun a => ih.bind fun more => steady_pure (a :: more)

theorem steady_counted {r : Reader α} (h : Steady r) : Steady (counted r) :=
  steady_u16.bind fun n => steady_times h n

end Reader

open Reader

/-! ## Constants -/

theorem steady_constantTagged (tag : UInt8) : Steady (Constant.readTagged tag) := by
  unfold Constant.readTagged
  split
  · exact steady_u16.bind fun size => (steady_bytes size).bind fun _ => steady_pure _
  split
  · exact steady_u16.bind fun _ => steady_pure _
  split
  · exact (steady_skip 8).bind fun _ => steady_pure _
  split
  · exact (steady_skip _).bind fun _ => steady_pure _
  · exact steady_fail _

theorem steady_constant : Steady Constant.read := steady_u8.bind steady_constantTagged

theorem steady_readSlots (n : Nat) : Steady (ConstantPool.readSlots n) := by
  -- A wide constant uses up two of the slots, so the induction is over all smaller numbers.
  induction n using Nat.strongRecOn with
  | ind n ih =>
      cases n with
      | zero =>
          rw [ConstantPool.readSlots]
          exact steady_pure []
      | succ n =>
          rw [ConstantPool.readSlots]
          refine steady_constant.bind fun constant => ?_
          split
          · exact (ih (n - 1) (by omega)).bind fun _ => steady_pure _
          · exact (ih n (by omega)).bind fun _ => steady_pure _

theorem steady_pool : Steady ConstantPool.read :=
  steady_u16.bind fun count => (steady_readSlots (count - 1)).bind fun _ => steady_pure _

section Members

variable (pool : ConstantPool)

theorem steady_readUtf8 : Steady pool.readUtf8 := steady_u16.bind fun _ => steady_ofExcept _

theorem steady_readClassName : Steady pool.readClassName :=
  steady_u16.bind fun _ => steady_ofExcept _

/-! ## Fields, methods and files -/

/-- What is found in the body of an attribute does not depend on what follows the body. -/
theorem steady_attribute : Steady (Member.readAttribute pool) := by
  refine (steady_readUtf8 pool).bind fun name => steady_u32.bind fun size =>
    (steady_bytes size).bind fun body => ?_
  split
  · exact steady_ofExcept _
  · exact steady_pure []

theorem steady_member : Steady (Member.read pool) :=
  steady_u16.bind fun _ => (steady_readUtf8 pool).bind fun _ => (steady_readUtf8 pool).bind fun _ =>
    (steady_counted (steady_attribute pool)).bind fun _ => steady_pure _

theorem steady_superName : Steady (readSuperName pool) := by
  refine steady_u16.bind fun index => ?_
  split
  · exact steady_pure none
  · exact (steady_ofExcept _).bind fun _ => steady_pure _

end Members

theorem steady_magic : Steady readMagic := by
  refine steady_u32.bind fun magic => ?_
  split
  · exact steady_pure ()
  · exact steady_fail _

theorem steady_class (path : Path) : Steady (readClass path) :=
  steady_magic.bind fun _ => (steady_skip 4).bind fun _ => steady_pool.bind fun pool =>
    steady_u16.bind fun _ => (steady_readClassName pool).bind fun _ =>
    (steady_superName pool).bind fun _ => (steady_counted (steady_readClassName pool)).bind fun _ =>
    (steady_counted (steady_member pool)).bind fun _ =>
    (steady_counted (steady_member pool)).bind fun _ => steady_pure _

theorem decode_eq_ok {path : Path} {bytes : List UInt8} {c : CompiledClass} :
    decode path bytes = .ok c ↔ ∃ rest, readClass path bytes = .ok (c, rest) := by
  rw [decode, StateT.run]
  cases readClass path bytes with
  | error e => simp [Except.map]
  | ok result => simp [Except.map, Prod.ext_iff]

theorem decode_eq_error {path : Path} {bytes : List UInt8} {e : FormatError} :
    decode path bytes = .error e ↔ readClass path bytes = .error e := by
  rw [decode, StateT.run]
  cases readClass path bytes with
  | error e' => simp [Except.map]
  | ok result => simp [Except.map]

/-- If a class file can be read, there is a point behind which its bytes make no difference and
before which every cut is noticed as such; and if it cannot be read for another reason than a cut,
no bytes behind it help. -/
theorem decode_stable (path : Path) (bytes : List UInt8) :
    (∀ c, decode path bytes = .ok c → ∃ n ≤ bytes.length,
      (∀ k, n ≤ k → ∀ more, decode path (bytes.take k ++ more) = .ok c) ∧
        ∀ k < n, decode path (bytes.take k) = .error .truncated) ∧
      ∀ e, decode path bytes = .error e → e ≠ .truncated →
        ∀ more, decode path (bytes ++ more) = .error e := by
  have hsteady := steady_class path
  constructor
  · intro c hok
    obtain ⟨rest, hread⟩ := decode_eq_ok.mp hok
    obtain ⟨bs, rfl, htakes⟩ := hsteady.takes hread
    refine ⟨bs.length, by rw [List.length_append]; omega, fun k hk more => ?_, fun k hk => ?_⟩
    · rw [List.take_append, List.take_of_length_le hk, List.append_assoc]
      exact decode_eq_ok.mpr ⟨_, htakes.reads _⟩
    · rw [List.take_append_of_le_length (Nat.le_of_lt hk)]
      exact decode_eq_error.mpr (htakes.cut k hk)
  · intro e herror hne more
    exact decode_eq_error.mpr (hsteady.refuses (decode_eq_error.mp herror) hne more)

/-- The bytes of a class `A` without members. -/
def plainClassBytes : List UInt8 :=
  [0xCA, 0xFE, 0xBA, 0xBE, 0, 0, 0, 52, 0, 3, 1, 0, 1, 65, 7, 0, 1, 0, 33, 0, 2, 0, 0, 0, 0, 0, 0,
    0, 0]

/-- The class that these bytes describe. -/
def plainClass : CompiledClass :=
  { qualifiedName := "A", path := ⟨"A.class"⟩, access := 33, superName := none
    interfaces := [], fields := [], methods := [] }

theorem decode_stable_plainClass :
    decode ⟨"A.class"⟩ plainClassBytes = .ok plainClass ∧
      (∃ n ≤ 29,
        (∀ k, n ≤ k → ∀ more,
            decode ⟨"A.class"⟩ (plainClassBytes.take k ++ more) = .ok plainClass) ∧
          ∀ k < n, decode ⟨"A.class"⟩ (plainClassBytes.take k) = .error .truncated) ∧
        ∀ more, decode ⟨"A.class"⟩ ([0, 1, 2, 3] ++ more) = .error (.badMagic 0x10203) := by
  have hok : decode ⟨"A.class"⟩ plainClassBytes = .ok plainClass := by decide +kernel
  have hbad : decode ⟨"A.class"⟩ [0, 1, 2, 3] = .error (.badMagic 0x10203) := by decide +kernel
  exact ⟨hok, (decode_stable ⟨"A.class"⟩ plainClassBytes).1 plainClass hok,
    (decode_stable ⟨"A.class"⟩ [0, 1, 2, 3]).2 _ hbad nofun⟩

end SuiteLint.ClassFile
