/-!
# Sets of small numbers

A set of numbers is kept as the bits of one number, so that unions and intersections of the sets of
tokens that a table is made from cost next to nothing.
-/

namespace SuiteLint.Parsing

/-- A finite set of numbers: `i` is a member if bit `i` is set. -/
structure IndexSet where
  bits : Nat
deriving Repr, DecidableEq, Inhabited

namespace IndexSet

/-- The set without members. -/
def empty : IndexSet := ⟨0⟩

instance : EmptyCollection IndexSet := ⟨empty⟩

/-- The set of one number. -/
def singleton (i : Nat) : IndexSet := ⟨1 <<< i⟩

/-- The numbers below a bound. -/
def below (n : Nat) : IndexSet := ⟨(1 <<< n) - 1⟩

/-- Whether a number is a member. -/
def contains (s : IndexSet) (i : Nat) : Bool := s.bits.testBit i

/-- The members of either set. -/
def union (s t : IndexSet) : IndexSet := ⟨s.bits ||| t.bits⟩

/-- The members of both sets. -/
def inter (s t : IndexSet) : IndexSet := ⟨s.bits &&& t.bits⟩

/-- The members of the first set that the second one lacks. -/
def diff (s t : IndexSet) : IndexSet := ⟨s.bits ^^^ (s.bits &&& t.bits)⟩

/-- The set with one more member. -/
def insert (s : IndexSet) (i : Nat) : IndexSet := s.union (singleton i)

/-- Whether there are no members. -/
def isEmpty (s : IndexSet) : Bool := s.bits == 0

/-- Whether two sets have a member in common. -/
def meets (s t : IndexSet) : Bool := !(s.inter t).isEmpty

/-- The set of the numbers of a list. -/
def ofList (is : List Nat) : IndexSet := is.foldl insert empty

/-- The members from the lowest to the highest one. -/
def toList (s : IndexSet) : List Nat := (List.range (s.bits.log2 + 1)).filter s.contains

/-- All 64-bit pieces count, so that sets with equal low members are told apart. -/
instance : Hashable IndexSet where
  hash s := mixHash (hash s.bits) (mixHash (hash (s.bits >>> 64)) (hash (s.bits >>> 128)))

theorem contains_union (s t : IndexSet) (i : Nat) :
    (s.union t).contains i = (s.contains i || t.contains i) := by
  simp [union, contains]

theorem contains_inter (s t : IndexSet) (i : Nat) :
    (s.inter t).contains i = (s.contains i && t.contains i) := by
  simp [inter, contains]

theorem not_contains_empty (i : Nat) : empty.contains i = false := by
  simp [empty, contains]

end IndexSet

end SuiteLint.Parsing
