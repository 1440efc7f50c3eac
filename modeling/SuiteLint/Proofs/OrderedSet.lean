import Mathlib.Data.List.Basic
import SuiteLint.OrderedSet

/-!
# Sets that remember their order, as lists

What adding elements to an `OrderedSet` does to its members and to the list of them: the members
stay in front, and what is new follows in the order of its first occurrences
(`OrderedSet.toList_insertAll`, `OrderedSet.toList_union`).
-/

namespace SuiteLint.OrderedSet

variable {α : Type} [DecidableEq α]

/-! ## Members -/

@[simp] theorem mem_insert {s : OrderedSet α} {a b : α} :
    b ∈ (s.insert a).toList ↔ b ∈ s.toList ∨ b = a := by
  unfold insert
  split
  · rename_i h
    exact ⟨Or.inl, fun hb => hb.elim id fun hba => hba ▸ h⟩
  · simp

@[simp] theorem mem_insertAll {s : OrderedSet α} {as : List α} {b : α} :
    b ∈ (s.insertAll as).toList ↔ b ∈ s.toList ∨ b ∈ as := by
  induction as generalizing s with
  | nil => simp [insertAll]
  | cons a as ih =>
      rw [show s.insertAll (a :: as) = (s.insert a).insertAll as from rfl, ih, mem_insert,
        List.mem_cons, or_assoc]

@[simp] theorem mem_union {s t : OrderedSet α} {b : α} :
    b ∈ (s.union t).toList ↔ b ∈ s.toList ∨ b ∈ t.toList :=
  mem_insertAll

/-! ## The order of members -/

theorem ext {s t : OrderedSet α} (h : s.toList = t.toList) : s = t := by
  cases s
  cases t
  cases h
  rfl

theorem eraseDups_of_nodup {as : List α} (h : as.Nodup) : as.eraseDups = as := by
  induction as with
  | nil => rfl
  | cons a as ih =>
      obtain ⟨ha, has⟩ := List.nodup_cons.mp h
      have hfilter : as.filter (fun b => !b == a) = as := by
        refine List.filter_eq_self.mpr fun b hb => ?_
        have hne : b ≠ a := fun hba => ha (hba ▸ hb)
        simpa using hne
      rw [List.eraseDups_cons, hfilter, ih has]

/-- What is new comes behind the members, each element at its first place. -/
theorem toList_insertAll (s : OrderedSet α) (as : List α) :
    (s.insertAll as).toList = s.toList ++ (as.filter (· ∉ s.toList)).eraseDups := by
  induction as generalizing s with
  | nil => simp [insertAll]
  | cons a as ih =>
      rw [show s.insertAll (a :: as) = (s.insert a).insertAll as from rfl, ih]
      by_cases ha : a ∈ s.toList
      · simp [insert, ha]
      · -- From now on `a` is a member, so that later occurrences are no longer new.
        have hlater : as.filter (fun b => b ∉ s.toList ++ [a]) =
            (as.filter (· ∉ s.toList)).filter (fun b => !b == a) := by
          rw [List.filter_filter]
          refine List.filter_congr fun b _ => ?_
          by_cases hba : b = a <;> simp [hba]
        simp only [insert, ha, dif_neg, not_false_eq_true, hlater, List.filter_cons_of_pos,
          decide_true, List.eraseDups_cons, List.append_assoc, List.singleton_append]

theorem toList_union (s t : OrderedSet α) :
    (s.union t).toList = s.toList ++ t.toList.filter (· ∉ s.toList) := by
  rw [union, toList_insertAll, eraseDups_of_nodup (t.nodup.filter _)]

/-- Elements that come in pieces come in as if they were in one. -/
theorem insertAll_append (s : OrderedSet α) (as bs : List α) :
    s.insertAll (as ++ bs) = (s.insertAll as).insertAll bs :=
  List.foldl_append

theorem empty_union (t : OrderedSet α) : (∅ : OrderedSet α).union t = t := by
  refine ext ?_
  rw [toList_union]
  show [] ++ t.toList.filter (fun a => decide (a ∉ [])) = t.toList
  simp

/-- A set that has grown from another one takes its place in a union. -/
theorem union_insertAll (s : OrderedSet α) (as : List α) :
    s.union (s.insertAll as) = s.insertAll as := by
  refine ext ?_
  have hold : s.toList.filter (· ∉ s.toList) = [] :=
    List.filter_eq_nil_iff.mpr fun a ha => by simpa using ha
  have hnew : ((as.filter (· ∉ s.toList)).eraseDups).filter (· ∉ s.toList) =
      (as.filter (· ∉ s.toList)).eraseDups := by
    refine List.filter_eq_self.mpr fun a ha => ?_
    have hmem := List.mem_eraseDups.mp ha
    exact (List.mem_filter.mp hmem).2
  rw [toList_union, toList_insertAll, List.filter_append, hold, hnew, List.nil_append]

end SuiteLint.OrderedSet
