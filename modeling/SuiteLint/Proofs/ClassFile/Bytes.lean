import SuiteLint.ClassFile.Bytes

/-!
# What a reader takes

`Reads r bs a` says that a reader takes exactly the bytes `bs` and gives `a`, whatever follows them.
The laws below put such facts together along the readers: one behind the other (`Reads.bind`), many
times (`reads_times`) and behind a count (`reads_counted`). Numbers are written by `bigEndian`.
-/

namespace SuiteLint.ClassFile

/-- The low `n` bytes of a number, high byte first. -/
def bigEndian : Nat → Nat → List UInt8
  | 0, _ => []
  | n + 1, value => bigEndian n (value / 256) ++ [UInt8.ofNat value]

@[simp] theorem length_bigEndian (n value : Nat) : (bigEndian n value).length = n := by
  induction n generalizing value with
  | zero => rfl
  | succ n ih => rw [bigEndian, List.length_append, ih, List.length_singleton]

namespace Reader

theorem number_append_singleton (bs : List UInt8) (b : UInt8) :
    number (bs ++ [b]) = number bs * 256 + b.toNat := by
  simp [number, List.foldl_append]

theorem number_bigEndian_succ (n value : Nat) :
    number (bigEndian (n + 1) value) = number (bigEndian n (value / 256)) * 256 + value % 256 := by
  rw [bigEndian, number_append_singleton, UInt8.toNat_ofNat']

theorem number_bigEndian_two {value : Nat} (h : value < UInt16.size) :
    number (bigEndian 2 value) = value := by
  simp only [number_bigEndian_succ]
  change (0 * 256 + value / 256 % 256) * 256 + value % 256 = value
  change value < 65536 at h
  omega

theorem number_bigEndian_four {value : Nat} (h : value < UInt32.size) :
    number (bigEndian 4 value) = value := by
  simp only [number_bigEndian_succ]
  change (((0 * 256 + value / 256 / 256 / 256 % 256) * 256 + value / 256 / 256 % 256) * 256
    + value / 256 % 256) * 256 + value % 256 = value
  change value < 4294967296 at h
  omega

/-! ## Exact reading -/

/-- The reader takes exactly these bytes and gives this value, whatever follows. -/
def Reads {α : Type} (r : Reader α) (bs : List UInt8) (a : α) : Prop :=
  ∀ rest, r (bs ++ rest) = .ok (a, rest)

namespace Reads

variable {α β : Type} {r : Reader α} {bs : List UInt8} {a : α}

theorem pure (a : α) : Reads (Pure.pure a) [] a := fun _ => rfl

theorem bind {k : α → Reader β} {cs : List UInt8} {b : β} (h : Reads r bs a)
    (hk : Reads (k a) cs b) : Reads (r >>= k) (bs ++ cs) b := by
  intro rest
  have hr := h (cs ++ rest)
  rw [List.append_assoc]
  show (r (bs ++ (cs ++ rest)) >>= fun p => k p.1 p.2) = _
  rw [hr]
  exact hk rest

/-- A reader behind which nothing more is read. -/
theorem bindPure {b : β} {k : α → Reader β} (h : Reads r bs a) (hk : k a = Pure.pure b) :
    Reads (r >>= k) bs b := by
  have hpure : Reads (k a) [] b := hk ▸ pure b
  simpa using h.bind hpure

/-- Reading the whole input. -/
theorem run (h : Reads r bs a) : r bs = .ok (a, []) := by
  simpa using h []

end Reads

theorem splitExact?_append {α : Type} (xs ys : List α) :
    splitExact? xs.length (xs ++ ys) = some (xs, ys) := by
  induction xs with
  | nil => rfl
  | cons x xs ih => simp [splitExact?, ih]

theorem reads_bytes {n : Nat} {bs : List UInt8} (h : bs.length = n) : Reads (bytes n) bs bs := by
  intro rest
  subst h
  rw [bytes, splitExact?_append]

theorem reads_skip {n : Nat} {bs : List UInt8} (h : bs.length = n) : Reads (skip n) bs () :=
  (reads_bytes h).bindPure rfl

theorem reads_u8 (b : UInt8) : Reads u8 [b] b := fun _ => rfl

theorem reads_u16 {n : Nat} (h : n < UInt16.size) : Reads u16 (bigEndian 2 n) n := by
  refine (reads_bytes (length_bigEndian 2 n)).bindPure ?_
  rw [number_bigEndian_two h]

theorem reads_u32 {n : Nat} (h : n < UInt32.size) : Reads u32 (bigEndian 4 n) n := by
  refine (reads_bytes (length_bigEndian 4 n)).bindPure ?_
  rw [number_bigEndian_four h]

@[simp] theorem ofExcept_ok {α : Type} (a : α) : ofExcept (.ok a) = pure a := rfl

/-! ## Many values -/

section

variable {α β : Type} {r : Reader β} {write : α → List UInt8} {value : α → β} {items : List α}

/-- Values that are each read exactly are read exactly one after the other. -/
theorem reads_times (h : ∀ a ∈ items, Reads r (write a) (value a)) :
    Reads (times items.length r) (items.flatMap write) (items.map value) := by
  induction items with
  | nil => exact Reads.pure []
  | cons a items ih =>
      have hmore := ih fun b hb => h b (List.mem_cons_of_mem a hb)
      rw [List.flatMap_cons]
      exact (h a List.mem_cons_self).bind (hmore.bindPure rfl)

/-- A count and as many values. -/
theorem reads_counted (hcount : items.length < UInt16.size)
    (h : ∀ a ∈ items, Reads r (write a) (value a)) :
    Reads (counted r) (bigEndian 2 items.length ++ items.flatMap write) (items.map value) :=
  (reads_u16 hcount).bind (reads_times h)

end

end Reader

end SuiteLint.ClassFile
