/-!
# Sets that remember their order

A finite set whose members are listed in the order in which they came in. Adding a member that is
already there changes nothing, so the first occurrence decides the place.
-/

namespace SuiteLint

/-- A list without repetitions. -/
structure OrderedSet (α : Type) [DecidableEq α] where
  toList : List α
  nodup : toList.Nodup

namespace OrderedSet

variable {α : Type} [DecidableEq α]

/-- The set without members. -/
def empty : OrderedSet α := ⟨[], List.nodup_nil⟩

instance : EmptyCollection (OrderedSet α) := ⟨empty⟩

instance : Inhabited (OrderedSet α) := ⟨empty⟩

instance : DecidableEq (OrderedSet α) := fun s t =>
  if h : s.toList = t.toList then
    .isTrue (by cases s; cases t; cases h; rfl)
  else
    .isFalse fun e => h (congrArg toList e)

/-- Whether an element is a member. -/
def contains (s : OrderedSet α) (a : α) : Bool := decide (a ∈ s.toList)

/-- The set with `a` at its end, unless `a` is a member already. -/
def insert (s : OrderedSet α) (a : α) : OrderedSet α :=
  if h : a ∈ s.toList then s
  else ⟨s.toList ++ [a], by
    rw [List.nodup_append]
    refine ⟨s.nodup, by simp, ?_⟩
    intro x hx y hy
    simp only [List.mem_singleton] at hy
    subst hy
    exact fun e => h (e ▸ hx)⟩

/-- The set with the elements of a list added one after the other. -/
def insertAll (s : OrderedSet α) (as : List α) : OrderedSet α := as.foldl insert s

/-- The members of a list, each at its first place. -/
def ofList (as : List α) : OrderedSet α := insertAll empty as

/-- The members of `s`, then those of `t` that are new. -/
def union (s t : OrderedSet α) : OrderedSet α := s.insertAll t.toList

end OrderedSet

end SuiteLint
