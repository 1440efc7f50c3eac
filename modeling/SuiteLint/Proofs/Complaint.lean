import Mathlib.Data.List.Forall2
import SuiteLint.Complaint

/-!
# The order of complaints

`Complaint.cmp` compares six fields one after the other, the path by its components. Here it is
shown to be a total order (`Std.TransCmp`) in which `.eq` means exactly that two complaints say the
same (`Complaint.cmp_eq_iff_same`). Both facts together make adjacent repetitions the only ones in a
sorted list, so that `Complaint.arrange`, which drops only neighbours, leaves a strictly increasing
list (`Complaint.arrange_increasing`) with the members of the list it started from
(`Complaint.arrange_members`). A strictly increasing list is determined by its members
(`Complaint.Increasing.unique`), so whatever order the complaints come in, the arranged list is the
same (`Complaint.arrange_perm`).
-/

namespace SuiteLint

open Std (ReflCmp OrientedCmp TransCmp LawfulEqCmp)

/-- An order on a field is an order on the records that have it. -/
theorem TransCmp.onField {α β : Type} {cmp : β → β → Ordering} [TransCmp cmp] (f : α → β) :
    TransCmp fun a b => cmp (f a) (f b) where
  eq_swap := OrientedCmp.eq_swap
  isLE_trans := TransCmp.isLE_trans

/-! ## Paths -/

namespace Path

theorem Component.cmp_eq_compareLex :
    Component.cmp = compareLex (compareOn Component.rank) (compareOn Component.label) := rfl

instance : TransCmp Component.cmp := by
  rw [Component.cmp_eq_compareLex]
  infer_instance

/-- Kind and label are all there is to a component. -/
theorem Component.eq_of_rank_label {a b : Component} (hrank : a.rank = b.rank)
    (hlabel : a.label = b.label) : a = b := by
  cases a <;> cases b <;> simp_all [Component.rank, Component.label]

instance : LawfulEqCmp Component.cmp where
  eq_of_compare {a b} h := by
    rw [Component.cmp, Ordering.then_eq_eq] at h
    exact Component.eq_of_rank_label (LawfulEqCmp.eq_of_compare h.1)
      (LawfulEqCmp.eq_of_compare h.2)

theorem cmpComponents_eq_compareLex :
    ∀ as bs : List Component, cmpComponents as bs = List.compareLex Component.cmp as bs
  | [], [] => rfl
  | [], _ :: _ => rfl
  | _ :: _, [] => rfl
  | a :: as, b :: bs => by
      rw [cmpComponents, List.compareLex_cons_cons, cmpComponents_eq_compareLex as bs]

theorem cmp_eq_compareLex (p q : Path) :
    p.cmp q = List.compareLex Component.cmp p.components q.components :=
  cmpComponents_eq_compareLex p.components q.components

instance : TransCmp Path.cmp := by
  have h : Path.cmp = fun p q => List.compareLex Component.cmp p.components q.components := by
    funext p q
    exact cmp_eq_compareLex p q
  rw [h]
  exact TransCmp.onField components

theorem cmp_eq_iff_same (p q : Path) : p.cmp q = .eq ↔ p.same q = true := by
  rw [cmp_eq_compareLex, LawfulEqCmp.compare_eq_iff_eq, same, beq_iff_eq]

end Path

/-! ## Complaints -/

namespace Complaint

theorem cmpOption_eq_compare {α : Type} [Ord α] (a b : Option α) :
    cmpOption compare a b = compare a b := by
  cases a <;> cases b <;> rfl

/-- The order of complaints, field by field. -/
theorem cmp_eq_compareLex :
    cmp = compareLex (fun a b => a.path.cmp b.path) (compareLex (compareOn line)
      (compareLex (compareOn rule) (compareLex (compareOn className)
        (compareLex (compareOn method) (compareOn message))))) := by
  funext a b
  simp only [cmp, compareLex, compareOn, cmpOption_eq_compare]

instance : TransCmp cmp := by
  have hpath : TransCmp fun a b : Complaint => a.path.cmp b.path := TransCmp.onField path
  rw [cmp_eq_compareLex]
  infer_instance

/-- Two complaints compare as equal exactly if they say the same. -/
theorem cmp_eq_iff_same (a b : Complaint) : a.cmp b = .eq ↔ a.same b = true := by
  rw [cmp_eq_compareLex]
  simp only [compareLex_eq_eq, compareOn, LawfulEqCmp.compare_eq_iff_eq, Path.cmp_eq_iff_same,
    same, Bool.and_eq_true, beq_iff_eq]
  tauto

theorem same_refl (a : Complaint) : a.same a = true :=
  (cmp_eq_iff_same a a).mp ReflCmp.compare_self

theorem same_symm {a b : Complaint} (h : a.same b = true) : b.same a = true :=
  (cmp_eq_iff_same b a).mp (OrientedCmp.eq_symm ((cmp_eq_iff_same a b).mpr h))

theorem same_trans {a b c : Complaint} (hab : a.same b = true) (hbc : b.same c = true) :
    a.same c = true :=
  (cmp_eq_iff_same a c).mp
    (TransCmp.eq_trans ((cmp_eq_iff_same a b).mpr hab) ((cmp_eq_iff_same b c).mpr hbc))

/-- To say the same is an equivalence. -/
theorem same_equivalence : Equivalence fun a b : Complaint => a.same b = true :=
  ⟨same_refl, same_symm, same_trans⟩

theorem le_eq_isLE (a b : Complaint) : a.le b = (a.cmp b).isLE := by
  rw [le]
  cases a.cmp b <;> rfl

theorem le_trans {a b c : Complaint} (hab : a.le b = true) (hbc : b.le c = true) :
    a.le c = true := by
  rw [le_eq_isLE] at *
  exact TransCmp.isLE_trans hab hbc

theorem le_total (a b : Complaint) : (a.le b || b.le a) = true := by
  have hswap : b.cmp a = (a.cmp b).swap := OrientedCmp.eq_swap
  rw [le_eq_isLE, le_eq_isLE, hswap]
  cases a.cmp b <;> rfl

/-- Of two complaints in order, the first comes strictly before, or both say the same. -/
theorem lt_or_same_of_le {a b : Complaint} (h : a.le b = true) :
    a.cmp b = .lt ∨ a.same b = true := by
  rw [le_eq_isLE, Ordering.isLE_iff_eq_lt_or_eq_eq] at h
  exact h.imp_right (cmp_eq_iff_same a b).mp

theorem not_same_of_lt {a b : Complaint} (h : a.cmp b = .lt) : ¬a.same b = true := by
  intro hs
  rw [(cmp_eq_iff_same a b).mpr hs] at h
  cases h

/-! ## Strictly increasing lists -/

/-- Every complaint comes strictly before all that follow it. -/
def Increasing (cs : List Complaint) : Prop := cs.Pairwise fun a b => a.cmp b = .lt

/-- Two lists say the same, complaint by complaint. -/
def SameList (cs ds : List Complaint) : Prop := List.Forall₂ (fun c d => c.same d = true) cs ds

/-- Every complaint of the first list is in the second one, up to what it says. -/
def Within (cs ds : List Complaint) : Prop := ∀ c ∈ cs, ∃ d ∈ ds, c.same d = true

theorem Within.trans {cs ds es : List Complaint} (h : Within cs ds) (h' : Within ds es) :
    Within cs es := by
  intro c hc
  obtain ⟨d, hd, hcd⟩ := h c hc
  obtain ⟨e, he, hde⟩ := h' d hd
  exact ⟨e, he, same_trans hcd hde⟩

theorem Within.of_subset {cs ds : List Complaint} (h : cs ⊆ ds) : Within cs ds :=
  fun c hc => ⟨c, h hc, same_refl c⟩

/-- The head of a strictly increasing list is not above the head of another one that holds the
same complaint. -/
theorem Increasing.head_le {a b : Complaint} {bs : List Complaint} (hbs : Increasing (b :: bs))
    (hab : ∃ d ∈ b :: bs, a.same d = true) : b.le a = true := by
  obtain ⟨d, hd, had⟩ := hab
  have hda : d.cmp a = .eq := (cmp_eq_iff_same d a).mpr (same_symm had)
  rw [le_eq_isLE]
  rcases List.mem_cons.mp hd with rfl | hd
  · rw [hda]; rfl
  · rw [TransCmp.lt_of_lt_of_eq (List.rel_of_pairwise_cons hbs hd) hda]; rfl

/-- Behind heads that say the same, the tails of strictly increasing lists are within each other if
the lists are. -/
theorem Increasing.within_tail {a b : Complaint} {as bs : List Complaint}
    (has : Increasing (a :: as)) (hab : a.same b = true) (h : Within (a :: as) (b :: bs)) :
    Within as bs := by
  intro c hc
  obtain ⟨d, hd, hcd⟩ := h c (List.mem_cons_of_mem _ hc)
  rcases List.mem_cons.mp hd with rfl | hd
  · have hac : a.same c = true := same_trans hab (same_symm hcd)
    exact absurd hac (not_same_of_lt (List.rel_of_pairwise_cons has hc))
  · exact ⟨d, hd, hcd⟩

/-- A strictly increasing list is determined by its members. -/
theorem Increasing.unique : ∀ {as bs : List Complaint}, Increasing as → Increasing bs →
    Within as bs → Within bs as → SameList as bs
  | [], [], _, _, _, _ => .nil
  | [], b :: _, _, _, _, hba => by
      obtain ⟨_, hmem, _⟩ := hba b (List.mem_cons_self ..)
      cases hmem
  | a :: _, [], _, _, hab, _ => by
      obtain ⟨_, hmem, _⟩ := hab a (List.mem_cons_self ..)
      cases hmem
  | a :: as, b :: bs, has, hbs, hab, hba => by
      -- Each head is in the other list, so neither is above the other.
      have hble : b.le a = true := hbs.head_le (hab a (List.mem_cons_self ..))
      have hale : a.le b = true := has.head_le (hba b (List.mem_cons_self ..))
      rw [le_eq_isLE] at hble hale
      have hsame : a.same b = true :=
        (cmp_eq_iff_same a b).mp (OrientedCmp.isLE_antisymm hale hble)
      exact .cons hsame (Increasing.unique has.of_cons hbs.of_cons
        (has.within_tail hsame hab) (hbs.within_tail (same_symm hsame) hba))

/-! ## Arranging -/

theorem dropRepeats_go_sublist (last : Complaint) (cs : List Complaint) :
    (dropRepeats.go last cs).Sublist cs := by
  induction cs generalizing last with
  | nil => exact .slnil
  | cons c rest ih =>
      rw [dropRepeats.go]
      split
      · exact (ih last).cons c
      · exact (ih c).cons_cons c

/-- What is dropped says the same as the complaint that is kept before it. -/
theorem within_dropRepeats_go (last : Complaint) (cs : List Complaint) :
    Within (last :: cs) (last :: dropRepeats.go last cs) := by
  induction cs generalizing last with
  | nil => exact Within.of_subset (List.Subset.refl _)
  | cons c rest ih =>
      intro x hx
      rw [dropRepeats.go]
      rcases List.mem_cons.mp hx with rfl | hx
      · exact ⟨x, List.mem_cons_self .., same_refl x⟩
      · by_cases h : last.same c = true
        · rw [if_pos h]
          rcases List.mem_cons.mp hx with rfl | hx
          · exact ⟨last, List.mem_cons_self .., same_symm h⟩
          · exact ih last x (List.mem_cons_of_mem _ hx)
        · rw [if_neg h]
          obtain ⟨d, hd, hxd⟩ := ih c x hx
          exact ⟨d, List.mem_cons_of_mem _ hd, hxd⟩

/-- Dropping neighbours that say the same makes a sorted list strictly increasing. -/
theorem dropRepeats_go_increasing {last : Complaint} {cs : List Complaint}
    (h : (last :: cs).Pairwise fun a b => a.le b = true) :
    Increasing (last :: dropRepeats.go last cs) := by
  induction cs generalizing last with
  | nil => exact List.pairwise_singleton ..
  | cons c rest ih =>
      obtain ⟨hlast, hrest⟩ := List.pairwise_cons.mp h
      rw [dropRepeats.go]
      -- `last` stays the bound of what follows, or `c` takes its place and is strictly above it.
      by_cases hs : last.same c = true
      · rw [if_pos hs]
        exact ih (List.pairwise_cons.mpr
          ⟨fun x hx => hlast x (List.mem_cons_of_mem _ hx), hrest.of_cons⟩)
      · rw [if_neg hs]
        have hlc : last.cmp c = .lt :=
          (lt_or_same_of_le (hlast c (List.mem_cons_self ..))).resolve_right hs
        have hc : Increasing (c :: dropRepeats.go c rest) := ih hrest
        refine List.pairwise_cons.mpr ⟨fun x hx => ?_, hc⟩
        rcases List.mem_cons.mp hx with rfl | hx
        · exact hlc
        · exact TransCmp.lt_trans hlc (List.rel_of_pairwise_cons hc hx)

theorem sorted_mergeSort (cs : List Complaint) :
    (cs.mergeSort le).Pairwise fun a b => a.le b = true := by
  have htrans : ∀ a b c : Complaint, a.le b = true → b.le c = true → a.le c = true :=
    fun _ _ _ => le_trans
  exact List.pairwise_mergeSort htrans le_total cs

/-- An arranged list is strictly increasing. -/
theorem arrange_increasing (cs : List Complaint) : Increasing (arrange cs) := by
  rw [arrange]
  have hsorted := sorted_mergeSort cs
  cases hcs : cs.mergeSort le with
  | nil => exact .nil
  | cons c rest =>
      rw [hcs] at hsorted
      exact dropRepeats_go_increasing hsorted

/-- Arranging adds nothing. -/
theorem arrange_subset (cs : List Complaint) : arrange cs ⊆ cs := by
  intro x hx
  rw [arrange] at hx
  have hsorted : x ∈ cs.mergeSort le := by
    cases hcs : cs.mergeSort le with
    | nil => rwa [hcs] at hx
    | cons c rest =>
        rw [hcs] at hx
        exact ((dropRepeats_go_sublist c rest).cons_cons c).subset hx
  exact List.mem_mergeSort.mp hsorted

/-- Arranging loses nothing, up to what complaints say. -/
theorem within_arrange (cs : List Complaint) : Within cs (arrange cs) := by
  have hsort : cs ⊆ cs.mergeSort le := fun x hx => List.mem_mergeSort.mpr hx
  refine (Within.of_subset hsort).trans ?_
  rw [arrange]
  cases cs.mergeSort le with
  | nil => exact Within.of_subset (List.Subset.refl _)
  | cons c rest => exact within_dropRepeats_go c rest

/-- The arranged list says what the list that it comes from says. -/
theorem arrange_members (cs : List Complaint) (c : Complaint) :
    (∃ d ∈ arrange cs, d.same c = true) ↔ ∃ d ∈ cs, d.same c = true := by
  constructor
  · rintro ⟨d, hd, hdc⟩
    exact ⟨d, arrange_subset cs hd, hdc⟩
  · rintro ⟨d, hd, hdc⟩
    obtain ⟨e, he, hde⟩ := within_arrange cs d hd
    exact ⟨e, he, same_trans (same_symm hde) hdc⟩

/-- Lists of the same complaints are arranged alike, whatever their order. -/
theorem arrange_of_within {cs ds : List Complaint} (h : Within cs ds) (h' : Within ds cs) :
    SameList (arrange cs) (arrange ds) :=
  (arrange_increasing cs).unique (arrange_increasing ds)
    (((Within.of_subset (arrange_subset cs)).trans h).trans (within_arrange ds))
    (((Within.of_subset (arrange_subset ds)).trans h').trans (within_arrange cs))

theorem arrange_perm {cs ds : List Complaint} (h : cs.Perm ds) :
    SameList (arrange cs) (arrange ds) :=
  arrange_of_within (Within.of_subset h.subset) (Within.of_subset h.symm.subset)

end Complaint

end SuiteLint
