import Mathlib.Data.List.Nodup
import Mathlib.Data.List.Pairwise

/-!
# Stable sorting

What a stable sort makes of a list is determined by the order in which elements of the same rank
come in (`Ranks.mergeSort_eq`). So sorting may trade places with everything that leaves that order
alone, such as dropping elements (`Ranks.filter_mergeSort`). An element that is put into the list
anywhere turns up at one place of the sorted list, between elements that were neighbours before
(`Ranks.exists_mergeSort_insert`).
-/

namespace SuiteLint

/-- A test by which lists can be sorted. -/
structure Ranks {α : Type} (le : α → α → Bool) : Prop where
  trans : ∀ a b c, le a b = true → le b c = true → le a c = true
  total : ∀ a b, (le a b || le b a) = true

/-- Neither of two elements has to stand before the other. -/
def tied {α : Type} (le : α → α → Bool) (a b : α) : Bool := le a b && le b a

theorem tied_iff {α : Type} {le : α → α → Bool} {a b : α} :
    tied le a b = true ↔ le a b = true ∧ le b a = true := Bool.and_eq_true_iff

namespace Ranks

variable {α : Type} {le : α → α → Bool} {xs ys : List α}

theorem tied_self (h : Ranks le) (a : α) : tied le a a = true := by
  have hself := h.total a a
  rw [Bool.or_self] at hself
  exact tied_iff.mpr ⟨hself, hself⟩

theorem tied_of_tied (h : Ranks le) {a b c : α} (hb : tied le a b = true)
    (hc : tied le a c = true) : tied le b c = true := by
  obtain ⟨hab, hba⟩ := tied_iff.mp hb
  obtain ⟨hac, hca⟩ := tied_iff.mp hc
  exact tied_iff.mpr ⟨h.trans b a c hba hac, h.trans c a b hca hab⟩

theorem filter_tied_mergeSort (h : Ranks le) (xs : List α) (a : α) :
    (xs.mergeSort le).filter (tied le a) = xs.filter (tied le a) := by
  have hranked : (xs.filter (tied le a)).Pairwise fun b c => le b c = true := by
    refine List.pairwise_of_forall_mem_list fun b hb c hc => ?_
    exact (tied_iff.mp (h.tied_of_tied (List.of_mem_filter hb) (List.of_mem_filter hc))).1
  have hsub := (List.sublist_mergeSort h.trans h.total hranked List.filter_sublist).filter
    (tied le a)
  rw [List.filter_filter] at hsub
  simp only [Bool.and_self] at hsub
  exact (hsub.eq_of_length ((List.mergeSort_perm xs le).filter _).length_eq.symm).symm

theorem head_le (h : Ranks le) {x y : α} (hxs : (x :: xs).Pairwise fun a b => le a b = true)
    (hy : y ∈ x :: xs) : le x y = true := by
  rcases List.mem_cons.mp hy with rfl | hy
  · exact (tied_iff.mp (h.tied_self y)).1
  · exact List.rel_of_pairwise_cons hxs hy

theorem mem_of_filter_tied (h : Ranks le)
    (hfilter : ∀ a, xs.filter (tied le a) = ys.filter (tied le a)) {a : α} (ha : a ∈ xs) :
    a ∈ ys := by
  have hmem : a ∈ xs.filter (tied le a) := List.mem_filter.mpr ⟨ha, h.tied_self a⟩
  rw [hfilter] at hmem
  exact List.mem_of_mem_filter hmem

/-- A sorted list is determined by the order of its elements of the same rank. -/
theorem eq_of_filter_tied (h : Ranks le) (hxs : xs.Pairwise fun a b => le a b = true)
    (hys : ys.Pairwise fun a b => le a b = true)
    (hfilter : ∀ a, xs.filter (tied le a) = ys.filter (tied le a)) : xs = ys := by
  induction xs generalizing ys with
  | nil =>
      refine (List.eq_nil_iff_forall_not_mem.mpr fun a ha => ?_).symm
      exact List.not_mem_nil (h.mem_of_filter_tied (fun b => (hfilter b).symm) ha)
  | cons x xs ih =>
      have hx : x ∈ ys := h.mem_of_filter_tied hfilter List.mem_cons_self
      cases ys with
      | nil => exact absurd hx List.not_mem_nil
      | cons y ys =>
          -- Each head comes first in its list, so they are tied, and then the same.
          have hy := h.mem_of_filter_tied (fun b => (hfilter b).symm)
            (List.mem_cons_self (a := y) (l := ys))
          have hxy : tied le x y = true := tied_iff.mpr ⟨h.head_le hxs hy, h.head_le hys hx⟩
          have hhead := hfilter x
          rw [List.filter_cons_of_pos (h.tied_self x), List.filter_cons_of_pos hxy] at hhead
          obtain ⟨rfl, -⟩ := List.cons.inj hhead
          refine congrArg (x :: ·) (ih hxs.of_cons hys.of_cons fun a => ?_)
          have ha := hfilter a
          by_cases hax : tied le a x = true
          · rw [List.filter_cons_of_pos hax, List.filter_cons_of_pos hax] at ha
            exact (List.cons.inj ha).2
          · rwa [List.filter_cons_of_neg hax, List.filter_cons_of_neg hax] at ha

/-- Lists whose elements of the same rank come in the same order are sorted alike. -/
theorem mergeSort_eq (h : Ranks le)
    (hfilter : ∀ a, xs.filter (tied le a) = ys.filter (tied le a)) :
    xs.mergeSort le = ys.mergeSort le := by
  refine h.eq_of_filter_tied (List.pairwise_mergeSort h.trans h.total xs)
    (List.pairwise_mergeSort h.trans h.total ys) fun a => ?_
  rw [h.filter_tied_mergeSort, h.filter_tied_mergeSort, hfilter]

/-- It does not matter whether elements are dropped before or after sorting. -/
theorem filter_mergeSort (h : Ranks le) (keep : α → Bool) (xs : List α) :
    (xs.mergeSort le).filter keep = (xs.filter keep).mergeSort le := by
  refine h.eq_of_filter_tied ((List.pairwise_mergeSort h.trans h.total xs).filter keep)
    (List.pairwise_mergeSort h.trans h.total _) fun a => ?_
  calc ((xs.mergeSort le).filter keep).filter (tied le a)
      = ((xs.mergeSort le).filter (tied le a)).filter keep := List.filter_comm ..
    _ = (xs.filter (tied le a)).filter keep := by rw [h.filter_tied_mergeSort]
    _ = (xs.filter keep).filter (tied le a) := List.filter_comm ..
    _ = ((xs.filter keep).mergeSort le).filter (tied le a) := (h.filter_tied_mergeSort ..).symm

theorem onField {β : Type} (h : Ranks le) (f : β → α) : Ranks fun b c => le (f b) (f c) :=
  ⟨fun b c d => h.trans (f b) (f c) (f d), fun b c => h.total (f b) (f c)⟩

theorem mergeSort_map {β : Type} (f : β → α) (zs : List β) :
    (zs.map f).mergeSort le = (zs.mergeSort fun b c => le (f b) (f c)).map f := by
  rw [List.map_mergeSort]
  exact fun _ _ _ _ => rfl

/-- In a list in which one element is marked, sorting puts the marked element somewhere among the
others, which come in the order that they have without it. -/
theorem exists_mergeSort_marked (h : Ranks le) {zs : List (α × Bool)} {a : α}
    (hone : zs.filter Prod.snd = [(a, true)]) :
    ∃ before after, ((zs.filter fun z => !z.2).map Prod.fst).mergeSort le = before ++ after
      ∧ (zs.map Prod.fst).mergeSort le = before ++ a :: after := by
  have hmarked := h.onField (Prod.fst : α × Bool → α)
  have hsorted := hmarked.filter_mergeSort Prod.snd zs
  rw [mergeSort_map, mergeSort_map, ← hmarked.filter_mergeSort]
  rw [hone, List.mergeSort_singleton] at hsorted
  obtain ⟨front, back, hsplit, hfront, hback⟩ := List.filter_eq_cons_iff.mp hsorted
  have hkeep : ∀ {ws : List (α × Bool)}, (∀ w ∈ ws, ¬w.2 = true) →
      ws.filter (fun w => !w.2) = ws :=
    fun hws => List.filter_eq_self.mpr fun w hw => by simpa using hws w hw
  refine ⟨front.map Prod.fst, back.map Prod.fst, ?_, ?_⟩
  · rw [hsplit, List.filter_append, List.filter_cons_of_neg (by simp), hkeep hfront,
      hkeep (List.filter_eq_nil_iff.mp hback.2), List.map_append]
  · rw [hsplit, List.map_append, List.map_cons]

/-- One more element goes to one place and leaves the others in theirs. -/
theorem exists_mergeSort_insert (h : Ranks le) (xs ys : List α) (a : α) :
    ∃ before after, (xs ++ ys).mergeSort le = before ++ after
      ∧ (xs ++ a :: ys).mergeSort le = before ++ a :: after := by
  have hone : (xs.map (·, false) ++ (a, true) :: ys.map (·, false)).filter Prod.snd
      = [(a, true)] := by
    simp [List.filter_map, Function.comp_def]
  simpa [List.filter_map, Function.comp_def] using h.exists_mergeSort_marked hone

/-- If no two elements have the same rank, any order of them will do. -/
theorem filter_tied_of_perm (h : Ranks le) (hperm : xs.Perm ys)
    (huntied : xs.Pairwise fun a b => ¬tied le a b = true) (a : α) :
    xs.filter (tied le a) = ys.filter (tied le a) := by
  have hfilter := hperm.filter (tied le a)
  cases hxs : xs.filter (tied le a) with
  | nil =>
      rw [hxs] at hfilter
      exact hfilter.nil_eq
  | cons b bs =>
      have hb : ∀ c ∈ b :: bs, tied le a c = true := fun c hc =>
        List.of_mem_filter (hxs ▸ hc)
      have hpair := huntied.sublist (List.filter_sublist (p := tied le a))
      rw [hxs] at hpair hfilter
      have hbs : bs = [] := List.eq_nil_iff_forall_not_mem.mpr fun c hc =>
        List.rel_of_pairwise_cons hpair hc
          (h.tied_of_tied (hb b List.mem_cons_self) (hb c (List.mem_cons_of_mem b hc)))
      subst hbs
      exact (List.perm_singleton.mp hfilter.symm).symm

end Ranks

end SuiteLint
