import SuiteLint.Evaluation
import SuiteLint.Proofs.Complaint

/-!
# What an evaluation reports

`Rule.Makes` says, without lists, which complaints a rule makes about a class: a rule about classes
speaks about the class, a rule about cases about each case, and neither where its identifier is
suppressed. `Arises` gathers this over rules and classes. `evaluate` returns the one strictly
increasing list of what arises (`evaluate_unique`), so the order of rules and classes and the order
in which their complaints are gathered make no difference.
-/

namespace SuiteLint

open Complaint (Increasing SameList Within arrange)

/-- The complaints that a rule makes about a class and its cases. -/
inductive Rule.Makes (r : Rule) (context : Context) (everywhere : OrderedSet String)
    (c : TestClass) : Complaint → Prop
  | aboutClass {messages : Context → TestClass → List (Option TestCase × String)}
      {m : Option TestCase × String} (hcheck : r.check = .ofClass messages)
      (heverywhere : Suppression.covers everywhere r.id = false)
      (hclass : Suppression.covers c.suppressed r.id = false) (hm : m ∈ messages context c) :
      r.Makes context everywhere c (r.classComplaint c m)
  | aboutCase {messages : Context → TestCase → List String} {k : TestCase} {m : String}
      (hcheck : r.check = .ofCase messages) (hk : k ∈ c.cases)
      (heverywhere : Suppression.covers everywhere r.id = false)
      (hcase : Suppression.covers k.suppressed r.id = false) (hm : m ∈ messages context k) :
      r.Makes context everywhere c (Complaint.onCase r.id c k m)

theorem Suppression.silences_eq_false {everywhere target : OrderedSet String} {rule : String} :
    silences everywhere target rule = false ↔
      covers everywhere rule = false ∧ covers target rule = false := by
  rw [silences, Bool.or_eq_false_iff]

theorem Rule.mem_complaints {r : Rule} {context : Context} {everywhere : OrderedSet String}
    {c : TestClass} {x : Complaint} :
    x ∈ r.complaints context everywhere c ↔ r.Makes context everywhere c x := by
  constructor
  · intro hx
    unfold complaints at hx
    split at hx
    · rename_i messages hcheck
      split at hx
      · cases hx
      · rename_i hsilent
        rw [Bool.not_eq_true, Suppression.silences_eq_false] at hsilent
        obtain ⟨m, hm, rfl⟩ := List.mem_map.mp hx
        exact .aboutClass hcheck hsilent.1 hsilent.2 hm
    · rename_i messages hcheck
      obtain ⟨k, hk, hx⟩ := List.mem_flatMap.mp hx
      split at hx
      · cases hx
      · rename_i hsilent
        rw [Bool.not_eq_true, Suppression.silences_eq_false] at hsilent
        obtain ⟨m, hm, rfl⟩ := List.mem_map.mp hx
        exact .aboutCase hcheck hk hsilent.1 hsilent.2 hm
  · rintro (@⟨messages, m, hcheck, heverywhere, hclass, hm⟩ |
      @⟨messages, k, m, hcheck, hk, heverywhere, hcase, hm⟩)
    · have hsilent := Suppression.silences_eq_false.mpr ⟨heverywhere, hclass⟩
      simp only [complaints, hcheck, hsilent, Bool.false_eq_true, if_false]
      exact List.mem_map_of_mem hm
    · have hsilent := Suppression.silences_eq_false.mpr ⟨heverywhere, hcase⟩
      simp only [complaints, hcheck]
      refine List.mem_flatMap.mpr ⟨k, hk, ?_⟩
      rw [hsilent]
      exact List.mem_map_of_mem hm

/-- The complaints that rules make about the classes of a project. -/
def Arises (rules : List Rule) (context : Context) (everywhere : OrderedSet String) (p : Project)
    (x : Complaint) : Prop :=
  ∃ r ∈ rules, ∃ c ∈ p.testClasses, r.Makes context everywhere c x

/-- The complaints of all classes, before they are arranged. -/
def gathered (rules : List Rule) (context : Context) (everywhere : OrderedSet String)
    (p : Project) : List Complaint :=
  p.testClasses.flatMap (classComplaints rules context everywhere)

section

variable {rules rules' : List Rule} {context : Context} {everywhere : OrderedSet String}
  {p p' : Project}

theorem mem_gathered {x : Complaint} :
    x ∈ gathered rules context everywhere p ↔ Arises rules context everywhere p x := by
  simp only [gathered, classComplaints, List.mem_flatMap, Rule.mem_complaints, Arises]
  constructor
  · rintro ⟨c, hc, r, hr, h⟩
    exact ⟨r, hr, c, hc, h⟩
  · rintro ⟨r, hr, c, hc, h⟩
    exact ⟨c, hc, r, hr, h⟩

theorem Arises.congr (hrules : rules'.Perm rules) (hclasses : p'.testClasses.Perm p.testClasses)
    {x : Complaint} (h : Arises rules' context everywhere p' x) :
    Arises rules context everywhere p x := by
  obtain ⟨r, hr, c, hc, hx⟩ := h
  exact ⟨r, hrules.mem_iff.mp hr, c, hclasses.mem_iff.mp hc, hx⟩

theorem gathered_subset (hrules : rules'.Perm rules)
    (hclasses : p'.testClasses.Perm p.testClasses) :
    gathered rules' context everywhere p' ⊆ gathered rules context everywhere p :=
  fun _ hx => mem_gathered.mpr ((mem_gathered.mp hx).congr hrules hclasses)

end

/-- A strictly increasing list whose complaints are those of `made`, up to what they say. -/
structure Lists (made : Complaint → Prop) (out : List Complaint) : Prop where
  increasing : Increasing out
  members : ∀ c, (∃ d ∈ out, d.same c = true) ↔ ∃ d, made d ∧ d.same c = true

/-- Lists of the same complaints are the same. -/
theorem Lists.unique {made : Complaint → Prop} {out out' : List Complaint}
    (h : Lists made out) (h' : Lists made out') : SameList out out' := by
  have hwithin : ∀ {as bs}, Lists made as → Lists made bs → Within as bs := by
    intro as bs has hbs c hc
    obtain ⟨d, hd, hdc⟩ := (hbs.members c).mpr
      ((has.members c).mp ⟨c, hc, Complaint.same_refl c⟩)
    exact ⟨d, hd, Complaint.same_symm hdc⟩
  exact h.increasing.unique h'.increasing (hwithin h h') (hwithin h' h)

/-- An evaluation lists what arises. -/
theorem evaluate_lists (rules : List Rule) (context : Context) (everywhere : OrderedSet String)
    (p : Project) :
    Lists (Arises rules context everywhere p) (evaluate rules context everywhere p) where
  increasing := Complaint.arrange_increasing _
  members c := by
    rw [show evaluate rules context everywhere p = arrange (gathered rules context everywhere p)
      from rfl, Complaint.arrange_members]
    simp only [mem_gathered]

/-- **An evaluation returns the one strictly increasing list of what arises.** The order of
complaints is total and its `.eq` means that two complaints say the same; the returned list is
strictly increasing and says exactly what arises, and every such list says the same as it. So no
two returned complaints say the same, and neither the order of the rules, nor that of the classes,
nor the order in which the complaints of the classes are gathered changes what is returned. -/
theorem evaluate_unique (rules : List Rule) (context : Context) (everywhere : OrderedSet String)
    (p : Project) :
    Std.TransCmp Complaint.cmp
    ∧ (∀ a b : Complaint, a.cmp b = .eq ↔ a.same b = true)
    ∧ Equivalence (fun a b : Complaint => a.same b = true)
    ∧ Lists (Arises rules context everywhere p) (evaluate rules context everywhere p)
    ∧ (∀ out, Lists (Arises rules context everywhere p) out →
        SameList out (evaluate rules context everywhere p))
    ∧ (evaluate rules context everywhere p).Pairwise (fun a b => ¬a.same b = true)
    ∧ (∀ rules' p', rules'.Perm rules → p'.testClasses.Perm p.testClasses →
        SameList (evaluate rules' context everywhere p') (evaluate rules context everywhere p))
    ∧ (∀ cs, cs.Perm (p.testClasses.flatMap (classComplaints rules context everywhere)) →
        SameList (arrange cs) (evaluate rules context everywhere p)) := by
  have hlists := evaluate_lists rules context everywhere p
  refine ⟨inferInstance, Complaint.cmp_eq_iff_same, Complaint.same_equivalence, hlists,
    fun out hout => hout.unique hlists, hlists.increasing.imp Complaint.not_same_of_lt,
    fun rules' p' hrules hclasses => ?_, fun cs hcs => Complaint.arrange_perm hcs⟩
  exact Complaint.arrange_of_within
    (Within.of_subset (gathered_subset hrules hclasses))
    (Within.of_subset (gathered_subset hrules.symm hclasses.symm))

end SuiteLint
