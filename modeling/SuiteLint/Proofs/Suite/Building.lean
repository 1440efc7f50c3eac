import SuiteLint.Proofs.OrderedSet
import SuiteLint.Suite.TestClass

/-!
# Classes that are built step by step

Each time a class gains a case or a suppression, the suppressions of the class are copied to its
cases. Whatever the order of the steps, the copy that a case has is the set of the class itself,
members in the same order (`TestClass.InStep`): a new case has nothing to unite with, and an old one
has a beginning of what it is handed (`OrderedSet.union_insertAll`). So the class that comes of a
list of steps is told by two lists, the suppressions that the steps add and the cases that they add
(`TestClass.suppressed_editAll`, `TestClass.cases_editAll`), and what holds for a case is its own
suppressions, followed by those of the class that are not among them
(`TestClass.effective_suppressions`).
-/

namespace SuiteLint

/-- A case that no class has handed anything to. -/
def TestCase.Fresh (k : TestCase) : Prop := k.inherited = ∅

/-- The case in a class with the given suppressions. -/
def TestCase.under (k : TestCase) (values : OrderedSet String) : TestCase :=
  { k with inherited := values }

namespace TestCase

variable {k : TestCase} {values : OrderedSet String}

theorem inherit_of_fresh (h : k.Fresh) : k.inherit values = k.under values := by
  rw [inherit, under, h, OrderedSet.empty_union]

theorem inherit_insertAll (h : k.inherited = values) (added : List String) :
    k.inherit (values.insertAll added) = k.under (values.insertAll added) := by
  rw [inherit, under, h, OrderedSet.union_insertAll]

theorem under_of_inherited (h : k.inherited = values) : k.under values = k := by
  rw [under, ← h]

theorem under_under (k : TestCase) (values values' : OrderedSet String) :
    (k.under values).under values' = k.under values' := rfl

end TestCase

namespace TestClass

/-! ## One step -/

/-- The suppressions that a step adds to the class. -/
def Edit.values : Edit → List String
  | .suppressed values => values
  | _ => []

/-- The cases that a step adds. -/
def Edit.newCases : Edit → List TestCase
  | .cases ks => ks
  | _ => []

/-- All cases have inherited just what the class suppresses, in the same order. -/
def InStep (c : TestClass) : Prop := ∀ k ∈ c.cases, k.inherited = c.suppressed

variable {c : TestClass}

theorem suppressed_edit (c : TestClass) (e : Edit) :
    (c.edit e).suppressed = c.suppressed.insertAll e.values := by
  cases e <;> rfl

theorem InStep.map_under (h : c.InStep) : c.cases.map (·.under c.suppressed) = c.cases :=
  (List.map_congr_left fun k hk => TestCase.under_of_inherited (h k hk)).trans (List.map_id _)

theorem cases_edit (h : c.InStep) {e : Edit} (hfresh : ∀ k ∈ e.newCases, k.Fresh) :
    (c.edit e).cases = (c.cases ++ e.newCases).map (·.under (c.edit e).suppressed) := by
  cases e with
  | cases ks =>
      have hnew : ks.map (·.inherit c.suppressed) = ks.map (·.under c.suppressed) :=
        List.map_congr_left fun k hk => TestCase.inherit_of_fresh (hfresh k hk)
      show c.cases ++ ks.map (·.inherit c.suppressed) =
        (c.cases ++ ks).map (·.under c.suppressed)
      rw [hnew, List.map_append, h.map_under]
  | suppressed values =>
      show _ = (c.cases ++ []).map _
      rw [List.append_nil]
      exact List.map_congr_left fun k hk => TestCase.inherit_insertAll (h k hk) values
  | package | line | fields | characteristics | origin | mergeCompiled =>
      show _ = (c.cases ++ []).map _
      rw [List.append_nil]
      exact h.map_under.symm

theorem InStep.edit (h : c.InStep) {e : Edit} (hfresh : ∀ k ∈ e.newCases, k.Fresh) :
    (c.edit e).InStep := by
  intro k hk
  rw [cases_edit h hfresh] at hk
  obtain ⟨k', -, rfl⟩ := List.mem_map.mp hk
  rfl

/-! ## Any number of steps -/

theorem suppressed_editAll (c : TestClass) (edits : List Edit) :
    (c.editAll edits).suppressed = c.suppressed.insertAll (edits.flatMap Edit.values) := by
  induction edits generalizing c with
  | nil => rfl
  | cons e edits ih =>
      rw [show c.editAll (e :: edits) = (c.edit e).editAll edits from rfl, ih, suppressed_edit,
        List.flatMap_cons, OrderedSet.insertAll_append]

theorem cases_editAll (h : c.InStep) {edits : List Edit}
    (hfresh : ∀ e ∈ edits, ∀ k ∈ e.newCases, k.Fresh) :
    (c.editAll edits).cases =
      (c.cases ++ edits.flatMap Edit.newCases).map (·.under (c.editAll edits).suppressed) := by
  induction edits generalizing c with
  | nil =>
      rw [List.flatMap_nil, List.append_nil]
      exact h.map_under.symm
  | cons e edits ih =>
      have hhead := hfresh e List.mem_cons_self
      rw [show c.editAll (e :: edits) = (c.edit e).editAll edits from rfl,
        ih (h.edit hhead) fun e' he' => hfresh e' (List.mem_cons_of_mem e he'),
        cases_edit h hhead, List.flatMap_cons, ← List.append_assoc]
      -- What a case was handed by the first step is replaced by what the whole class hands it.
      simp only [List.map_append, List.map_map, Function.comp_def, TestCase.under_under]

/-- **What holds for a case is its own and what its class suppresses, however the class was built.**
The class suppresses what the steps add, each value at its first place. Its cases are those that
the steps add, in order, and nothing but what they inherit has changed. What holds for a case are
its own suppressions, followed by those of the class that are not among them. -/
theorem effective_suppressions (name : String) (path : Path) (origin : Origin) (edits : List Edit)
    (hfresh : ∀ e ∈ edits, ∀ k ∈ e.newCases, k.Fresh) :
    let c := (TestClass.new name path origin).editAll edits
    c.suppressed.toList = (edits.flatMap Edit.values).eraseDups
    ∧ c.cases = (edits.flatMap Edit.newCases).map (·.under c.suppressed)
    ∧ ∀ k ∈ c.cases,
      k.suppressed.toList = k.ownSuppressed.toList
        ++ c.suppressed.toList.filter (· ∉ k.ownSuppressed.toList)
      ∧ k.suppressed.toList.Nodup
      ∧ ∀ v, v ∈ k.suppressed.toList ↔ v ∈ k.ownSuppressed.toList ∨ v ∈ c.suppressed.toList := by
  intro c
  have hempty : (TestClass.new name path origin).InStep := by
    intro k hk
    cases hk
  have hcases := cases_editAll hempty hfresh
  refine ⟨?_, hcases, fun k hk => ?_⟩
  · rw [suppressed_editAll, OrderedSet.toList_insertAll]
    show [] ++ ((edits.flatMap Edit.values).filter (fun v => decide (v ∉ []))).eraseDups = _
    simp
  · rw [hcases] at hk
    obtain ⟨k', -, rfl⟩ := List.mem_map.mp hk
    exact ⟨OrderedSet.toList_union k'.ownSuppressed c.suppressed, OrderedSet.nodup _,
      fun v => OrderedSet.mem_union⟩

/-- Suppressions of the class come before a case and behind it; the case has one of them itself. -/
def aroundCase : List Edit :=
  [ .suppressed ["A"], .cases [(TestCase.named "adds").withSuppressed ["C", "B"]],
    .suppressed ["B", "D"], .mergeCompiled (fakeNamed "Other") ]

theorem effective_suppressions_aroundCase :
    (∀ e ∈ aroundCase, ∀ k ∈ e.newCases, k.Fresh)
    ∧ ∀ k ∈ ((TestClass.new "AddTest" ⟨"AddTest.java"⟩ .source).editAll aroundCase).cases,
      k.suppressed.toList = ["C", "B", "A", "D"] := by
  have hfresh : ∀ e ∈ aroundCase, ∀ k ∈ e.newCases, k.Fresh := by
    simp [aroundCase, Edit.newCases, TestCase.Fresh, TestCase.withSuppressed, TestCase.named]
  obtain ⟨hclass, hcases, heffective⟩ :=
    effective_suppressions "AddTest" ⟨"AddTest.java"⟩ .source aroundCase hfresh
  refine ⟨hfresh, fun k hk => ?_⟩
  have hown : k.ownSuppressed.toList = ["C", "B"] := by
    rw [hcases] at hk
    obtain ⟨k', hk', rfl⟩ := List.mem_map.mp hk
    obtain rfl : k' = (TestCase.named "adds").withSuppressed ["C", "B"] :=
      List.mem_singleton.mp hk'
    rfl
  rw [(heffective k hk).1, hclass, hown]
  decide

end TestClass

end SuiteLint
