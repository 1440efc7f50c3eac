import Mathlib.Data.List.Basic
import Mathlib.Tactic.Tauto
import SuiteLint.Evaluation
import SuiteLint.Proofs.OrderedSet

/-!
# Suppressions filter complaints

Adding a suppression to a class or to one of its cases takes complaints away and changes nothing
else. For a class this is `classComplaints` against its own filter; for a case the complaints have
to be told apart by the case that they are about, since two cases may share name and line.
`Rule.aboutClass` and `Rule.aboutCase` split what a registered rule says (`Rule.complaints_split`),
and `attributed` keeps the place of the case beside each complaint.

The rules enter only through `Rule.registry_cases`: apart from the one rule that asks cases for
their own suppressions, no registered rule sees any suppression. The other ingredient is that a
class built step by step has handed its suppressions to all its cases (`TestClass.Built.handed`).
-/

namespace SuiteLint

namespace Suppression

theorem covers_iff {values : OrderedSet String} {rule : String} :
    covers values rule = true ↔ ∃ v ∈ values.toList, names v rule = true := by
  simp [covers]

/-- A set covers what its members name, however it is listed. -/
theorem covers_congr {values values' : OrderedSet String} {rule : String}
    (h : ∀ v, v ∈ values.toList ↔ v ∈ values'.toList) :
    covers values rule = covers values' rule := by
  rw [Bool.eq_iff_iff, covers_iff, covers_iff]
  simp only [h]

theorem covers_insertAll (values : OrderedSet String) (added : List String) (rule : String) :
    covers (values.insertAll added) rule
      = (covers values rule || added.any fun v => names v rule) := by
  rw [Bool.eq_iff_iff, Bool.or_eq_true, covers_iff, covers_iff, List.any_eq_true]
  simp only [OrderedSet.mem_insertAll]
  constructor
  · rintro ⟨w, hw | hw, hn⟩
    · exact Or.inl ⟨w, hw, hn⟩
    · exact Or.inr ⟨w, hw, hn⟩
  · rintro (⟨w, hw, hn⟩ | ⟨w, hw, hn⟩)
    · exact ⟨w, Or.inl hw, hn⟩
    · exact ⟨w, Or.inr hw, hn⟩

theorem covers_insertAll_singleton (values : OrderedSet String) (v rule : String) :
    covers (values.insertAll [v]) rule = (covers values rule || names v rule) := by
  rw [covers_insertAll, List.any_cons, List.any_nil, Bool.or_false]

theorem silences_of_covers {everywhere target target' : OrderedSet String} {v rule : String}
    (h : covers target' rule = (covers target rule || names v rule)) :
    silences everywhere target' rule = (silences everywhere target rule || names v rule) := by
  rw [silences, silences, h, Bool.or_assoc]

end Suppression

/-! ## Classes hand their suppressions to their cases -/

namespace TestCase

theorem covers_suppressed_withSuppressed (k : TestCase) (v rule : String) :
    Suppression.covers (k.withSuppressed [v]).suppressed rule
      = (Suppression.covers k.suppressed rule || Suppression.names v rule) := by
  rw [← Suppression.covers_insertAll_singleton]
  refine Suppression.covers_congr fun w => ?_
  simp only [suppressed, withSuppressed, OrderedSet.mem_union, OrderedSet.mem_insertAll]
  tauto

/-- A case that already has the suppressions of its class gains `v` when the class does. -/
theorem covers_suppressed_inherit {k : TestCase} {values : OrderedSet String}
    (h : ∀ w ∈ values.toList, w ∈ k.inherited.toList) (v rule : String) :
    Suppression.covers (k.inherit (values.insertAll [v])).suppressed rule
      = (Suppression.covers k.suppressed rule || Suppression.names v rule) := by
  rw [← Suppression.covers_insertAll_singleton]
  refine Suppression.covers_congr fun w => ?_
  have hw := h w
  simp only [suppressed, inherit, OrderedSet.mem_union, OrderedSet.mem_insertAll]
  tauto

end TestCase

namespace TestClass

/-- A class that was built step by step. -/
def Built (c : TestClass) : Prop :=
  ∃ name path origin edits, c = (TestClass.new name path origin).editAll edits

/-- All cases have inherited what the class suppresses. -/
def Handed (c : TestClass) : Prop :=
  ∀ k ∈ c.cases, ∀ v ∈ c.suppressed.toList, v ∈ k.inherited.toList

/-- Every step of building hands on. -/
theorem Handed.edit {c : TestClass} (h : c.Handed) (e : Edit) : (c.edit e).Handed := by
  cases e with
  | package | line | fields | characteristics | origin | mergeCompiled => exact h
  | cases ks =>
      intro k hk v hv
      rcases List.mem_append.mp hk with hk | hk
      · exact h k hk v hv
      · obtain ⟨k', -, rfl⟩ := List.mem_map.mp hk
        exact OrderedSet.mem_union.mpr (Or.inr hv)
  | suppressed values =>
      intro k hk v hv
      obtain ⟨k', -, rfl⟩ := List.mem_map.mp hk
      exact OrderedSet.mem_union.mpr (Or.inr hv)

theorem Handed.editAll {c : TestClass} (h : c.Handed) (edits : List Edit) :
    (c.editAll edits).Handed := by
  induction edits generalizing c with
  | nil => exact h
  | cons e edits ih => exact ih (h.edit e)

theorem Built.handed {c : TestClass} (h : c.Built) : c.Handed := by
  obtain ⟨name, path, origin, edits, rfl⟩ := h
  refine Handed.editAll ?_ edits
  intro k hk
  cases hk

theorem covers_suppressed_withSuppressed (c : TestClass) (v rule : String) :
    Suppression.covers (c.withSuppressed [v]).suppressed rule
      = (Suppression.covers c.suppressed rule || Suppression.names v rule) :=
  Suppression.covers_insertAll_singleton c.suppressed v rule

/-- The class with a suppression added to its case at an index. -/
def suppressCase (c : TestClass) (i : Nat) (v : String) : TestClass :=
  { c with cases := c.cases.modify i fun k => k.withSuppressed [v] }

end TestClass

/-! ## What a registered rule says -/

namespace Rule

/-- Messages about a case that do not depend on suppressions. -/
def BlindToCase (messages : Context → TestCase → List String) : Prop :=
  ∀ context (k : TestCase) own inherited,
    messages context { k with ownSuppressed := own, inherited := inherited } = messages context k

/-- Messages that are about a class alone and depend neither on suppressions nor on cases. -/
def BlindToClass (messages : Context → TestClass → List (Option TestCase × String)) : Prop :=
  (∀ context c, ∀ m ∈ messages context c, m.1 = none)
    ∧ ∀ context (c : TestClass) values cases,
      messages context { c with suppressed := values, cases := cases } = messages context c

/-- A rule that checks each case and sees no suppressions. -/
def ChecksCases (r : Rule) : Prop :=
  ∃ messages, r.check = .ofCase messages ∧ BlindToCase messages ∧ r.id ≠ allPresentId

/-- A rule that checks the class alone and sees no suppressions. -/
def ChecksClass (r : Rule) : Prop :=
  ∃ messages, r.check = .ofClass messages ∧ BlindToClass messages

theorem inheritanceInTests_checksClass : inheritanceInTests.ChecksClass := by
  refine ⟨_, rfl, fun context c m hm => ?_, fun _ _ _ _ => rfl⟩
  dsimp only at hm
  split at hm <;> simp_all

theorem correctTestCaseDirectory_checksClass : correctTestCaseDirectory.ChecksClass := by
  refine ⟨_, rfl, fun context c m hm => ?_, fun _ _ _ _ => rfl⟩
  dsimp only at hm
  split at hm <;> simp_all

theorem nullableAnnotation_checksClass : nullableAnnotation.ChecksClass := by
  refine ⟨_, rfl, fun context c m hm => ?_, fun _ _ _ _ => rfl⟩
  obtain ⟨f, -, rfl⟩ := List.mem_map.mp hm
  rfl

/-- A registered rule sees no suppressions, and a class rule sees no cases, apart from the rule
about all names of a class. -/
theorem registry_cases {r : Rule} (hr : r ∈ registry) :
    r.ChecksCases ∨ r.ChecksClass ∨ r = allTestsInPresentSimple := by
  simp only [registry, List.mem_cons, List.not_mem_nil, or_false] at hr
  -- Twelve rules, in the order of the registry.
  rcases hr with rfl | rfl | rfl | rfl | rfl | rfl | rfl | rfl | rfl | rfl | rfl | rfl
  · exact Or.inl ⟨_, rfl, fun _ _ _ _ => rfl, by decide⟩
  · exact Or.inr (Or.inr rfl)
  · exact Or.inl ⟨_, rfl, fun _ _ _ _ => rfl, by decide⟩
  · exact Or.inl ⟨_, rfl, fun _ _ _ _ => rfl, by decide⟩
  · exact Or.inl ⟨_, rfl, fun _ _ _ _ => rfl, by decide⟩
  · exact Or.inl ⟨_, rfl, fun _ _ _ _ => rfl, by decide⟩
  · exact Or.inl ⟨_, rfl, fun _ _ _ _ => rfl, by decide⟩
  · exact Or.inl ⟨_, rfl, fun _ _ _ _ => rfl, by decide⟩
  · exact Or.inr (Or.inl inheritanceInTests_checksClass)
  · exact Or.inl ⟨_, rfl, fun _ _ _ _ => rfl, by decide⟩
  · exact Or.inr (Or.inl correctTestCaseDirectory_checksClass)
  · exact Or.inr (Or.inl nullableAnnotation_checksClass)

/-! ## Complaints about the class and complaints about a case -/

/-- The complaints of a rule that are about a class and none of its cases. -/
def aboutClass (r : Rule) (context : Context) (everywhere : OrderedSet String) (c : TestClass) :
    List Complaint :=
  match r.check with
  | .ofClass messages =>
    if Suppression.silences everywhere c.suppressed r.id then []
    else ((messages context c).filter fun m => m.1.isNone).map (r.classComplaint c)
  | .ofCase _ => []

/-- The complaints of a rule that are about one case of a class: what a case rule says of it, and
what a class rule says of a case that is the only one of its class. -/
def aboutCase (r : Rule) (context : Context) (everywhere : OrderedSet String) (c : TestClass)
    (k : TestCase) : List Complaint :=
  match r.check with
  | .ofClass messages =>
    if Suppression.silences everywhere c.suppressed r.id then []
    else ((messages context { c with cases := [k] }).filter fun m => m.1.isSome).map
      (r.classComplaint c)
  | .ofCase messages =>
    if Suppression.silences everywhere k.suppressed r.id then []
    else (messages context k).map (Complaint.onCase r.id c k)

section

variable {r : Rule} {context : Context} {everywhere : OrderedSet String} {c : TestClass}
  {k : TestCase} {v : String}

theorem rule_of_mem_aboutClass {x : Complaint} (hx : x ∈ r.aboutClass context everywhere c) :
    x.rule = r.id := by
  unfold aboutClass at hx
  split at hx
  · split at hx
    · cases hx
    · obtain ⟨⟨k | k, m⟩, -, rfl⟩ := List.mem_map.mp hx <;> rfl
  · cases hx

theorem rule_of_mem_aboutCase {x : Complaint} (hx : x ∈ r.aboutCase context everywhere c k) :
    x.rule = r.id := by
  unfold aboutCase at hx
  split at hx
  · split at hx
    · cases hx
    · obtain ⟨⟨k | k, m⟩, -, rfl⟩ := List.mem_map.mp hx <;> rfl
  · split at hx
    · cases hx
    · obtain ⟨m, -, rfl⟩ := List.mem_map.mp hx
      rfl

theorem aboutCase_of_ofCase {messages : Context → TestCase → List String}
    (hcheck : r.check = .ofCase messages) :
    r.aboutCase context everywhere c k
      = if Suppression.silences everywhere k.suppressed r.id then []
        else (messages context k).map (Complaint.onCase r.id c k) := by
  simp only [aboutCase, hcheck]

theorem aboutClass_of_checksClass {messages : Context → TestClass → List (Option TestCase × String)}
    (hcheck : r.check = .ofClass messages) (hblind : BlindToClass messages) :
    r.aboutClass context everywhere c
      = if Suppression.silences everywhere c.suppressed r.id then []
        else (messages context c).map (r.classComplaint c) := by
  have hall : (messages context c).filter (fun m => m.1.isNone) = messages context c :=
    List.filter_eq_self.mpr fun m hm => by rw [hblind.1 context c m hm]; rfl
  simp only [aboutClass, hcheck, hall]

theorem aboutCase_of_checksClass {messages : Context → TestClass → List (Option TestCase × String)}
    (hcheck : r.check = .ofClass messages) (hblind : BlindToClass messages) :
    r.aboutCase context everywhere c k = [] := by
  have hnone : (messages context { c with cases := [k] }).filter (fun m => m.1.isSome) = [] :=
    List.filter_eq_nil_iff.mpr fun m hm => by rw [hblind.1 _ _ m hm]; simp
  simp only [aboutCase, hcheck, hnone, List.map_nil, ite_self]

/-- Whether the rule about all names of a class complains about a case. -/
def namedBadly (k : TestCase) : Bool := !skipsAllPresent k && !Name.isPresentTense k.name

theorem allTestsInPresentSimple_aboutClass :
    allTestsInPresentSimple.aboutClass context everywhere c = [] := by
  simp only [aboutClass, allTestsInPresentSimple, List.filter_map]
  simp [Function.comp_def]

theorem allTestsInPresentSimple_aboutCase :
    allTestsInPresentSimple.aboutCase context everywhere c k
      = if Suppression.silences everywhere c.suppressed allPresentId then []
        else if namedBadly k then [Complaint.onCase allPresentId c k presentTenseMessage]
        else [] := by
  simp only [aboutCase, allTestsInPresentSimple]
  by_cases hk : namedBadly k = true
  · rw [if_pos hk]
    simp only [namedBadly] at hk
    simp only [List.filter_cons, hk, if_true, List.filter_nil, List.map_cons, List.map_nil,
      Option.isSome_some, classComplaint]
  · rw [if_neg hk]
    simp only [namedBadly] at hk
    simp only [List.filter_cons, hk, if_false, List.filter_nil, List.map_nil, Bool.false_eq_true,
      ite_self]

theorem allTestsInPresentSimple_complaints :
    allTestsInPresentSimple.complaints context everywhere c
      = if Suppression.silences everywhere c.suppressed allPresentId then []
        else (c.cases.filter namedBadly).map fun k =>
          Complaint.onCase allPresentId c k presentTenseMessage := by
  simp only [complaints, allTestsInPresentSimple, List.map_map]
  rfl

theorem filter_map_eq_flatMap {α β : Type} (p : α → Bool) (f : α → β) (as : List α) :
    (as.filter p).map f = as.flatMap fun a => if p a then [f a] else [] := by
  induction as with
  | nil => rfl
  | cons a as ih =>
      rw [List.filter_cons, List.flatMap_cons, ← ih]
      cases p a <;> rfl

/-- What a registered rule says is what it says about the class, then what it says about each
case. -/
theorem complaints_split (hr : r ∈ registry) :
    r.complaints context everywhere c = r.aboutClass context everywhere c
      ++ c.cases.flatMap (r.aboutCase context everywhere c) := by
  rcases registry_cases hr with ⟨messages, hcheck, -, -⟩ | ⟨messages, hcheck, hblind⟩ | rfl
  · rw [List.flatMap_congr fun k _ => aboutCase_of_ofCase hcheck]
    simp only [complaints, aboutClass, hcheck, List.nil_append]
  · rw [aboutClass_of_checksClass hcheck hblind,
      List.flatMap_eq_nil_iff.mpr fun k _ => aboutCase_of_checksClass hcheck hblind,
      List.append_nil]
    simp only [complaints, hcheck]
  · rw [allTestsInPresentSimple_aboutClass, List.nil_append,
      List.flatMap_congr fun k _ => allTestsInPresentSimple_aboutCase,
      allTestsInPresentSimple_complaints]
    by_cases hsilent : Suppression.silences everywhere c.suppressed allPresentId = true
    · simp only [hsilent, if_true]
      exact (List.flatMap_eq_nil_iff.mpr fun k _ => rfl).symm
    · simp only [hsilent, if_false, Bool.false_eq_true]
      exact filter_map_eq_flatMap namedBadly _ c.cases

/-! ## What a suppression takes away -/

theorem filter_rule {xs : List Complaint} {id : String} (h : ∀ x ∈ xs, x.rule = id)
    (drop : String → Bool) :
    xs.filter (fun x => !drop x.rule) = if drop id then [] else xs := by
  rw [List.filter_congr fun x hx => by rw [h x hx]]
  cases drop id <;> simp

theorem ite_or_nil {α : Type} (a b : Bool) (xs : List α) :
    (if (a || b) then [] else xs) = if b then [] else if a then [] else xs := by
  cases a <;> cases b <;> rfl

/-- A suppression on the class takes away what the rules that it names say about the class. -/
theorem aboutClass_withSuppressed (hr : r ∈ registry) :
    r.aboutClass context everywhere (c.withSuppressed [v])
      = (r.aboutClass context everywhere c).filter fun x => !Suppression.names v x.rule := by
  rw [filter_rule (fun x => rule_of_mem_aboutClass)]
  rcases registry_cases hr with ⟨messages, hcheck, -, -⟩ | ⟨messages, hcheck, hblind⟩ | rfl
  · simp only [aboutClass, hcheck, ite_self]
  · have hmessages : messages context (c.withSuppressed [v]) = messages context c :=
      hblind.2 context c _ _
    have hcomplaint : r.classComplaint (c.withSuppressed [v]) = r.classComplaint c := by
      funext ⟨k, m⟩
      cases k <;> rfl
    rw [aboutClass_of_checksClass hcheck hblind, aboutClass_of_checksClass hcheck hblind,
      hmessages, hcomplaint,
      Suppression.silences_of_covers (c.covers_suppressed_withSuppressed v r.id), ite_or_nil]
  · simp only [allTestsInPresentSimple_aboutClass, ite_self]

/-- A suppression on the class takes away what the rules that it names say about a case that has
the other suppressions of the class already. -/
theorem aboutCase_inherit (hr : r ∈ registry)
    (hk : ∀ w ∈ c.suppressed.toList, w ∈ k.inherited.toList) :
    r.aboutCase context everywhere (c.withSuppressed [v])
        (k.inherit (c.suppressed.insertAll [v]))
      = (r.aboutCase context everywhere c k).filter fun x => !Suppression.names v x.rule := by
  rw [filter_rule (fun x => rule_of_mem_aboutCase)]
  rcases registry_cases hr with ⟨messages, hcheck, hblind, -⟩ | ⟨messages, hcheck, hblind⟩ | rfl
  · have hmessages : messages context (k.inherit (c.suppressed.insertAll [v]))
        = messages context k := hblind context k _ _
    rw [aboutCase_of_ofCase hcheck, aboutCase_of_ofCase hcheck, hmessages,
      Suppression.silences_of_covers (TestCase.covers_suppressed_inherit hk v r.id), ite_or_nil]
    rfl
  · simp only [aboutCase_of_checksClass hcheck hblind, ite_self]
  · rw [allTestsInPresentSimple_aboutCase, allTestsInPresentSimple_aboutCase,
      Suppression.silences_of_covers (c.covers_suppressed_withSuppressed v allPresentId),
      ite_or_nil]
    rfl

/-- Whether a suppression on a case takes away a complaint of a rule about the case: it names the
rule, or the rule is the one about all names of a class and it names the rule about one name. -/
def dropped (v rule : String) : Bool :=
  Suppression.names v rule || (rule == allPresentId && Suppression.names v presentTense.id)

theorem skipsAllPresent_withSuppressed :
    skipsAllPresent (k.withSuppressed [v]) = (skipsAllPresent k || dropped v allPresentId) := by
  simp only [skipsAllPresent, TestCase.withSuppressed, Suppression.covers_insertAll_singleton,
    dropped, beq_self_eq_true, Bool.true_and]
  ac_rfl

/-- A suppression on a case takes away what is said about the case by the rules that it drops. -/
theorem aboutCase_withSuppressed (hr : r ∈ registry) :
    r.aboutCase context everywhere c (k.withSuppressed [v])
      = (r.aboutCase context everywhere c k).filter fun x => !dropped v x.rule := by
  rw [filter_rule (fun x => rule_of_mem_aboutCase)]
  rcases registry_cases hr with ⟨messages, hcheck, hblind, hid⟩ | ⟨messages, hcheck, hblind⟩ | rfl
  · have hmessages : messages context (k.withSuppressed [v]) = messages context k :=
      hblind context k _ _
    have hdrop : dropped v r.id = Suppression.names v r.id := by simp [dropped, hid]
    rw [aboutCase_of_ofCase hcheck, aboutCase_of_ofCase hcheck, hmessages, hdrop,
      Suppression.silences_of_covers (TestCase.covers_suppressed_withSuppressed k v r.id),
      ite_or_nil]
    rfl
  · simp only [aboutCase_of_checksClass hcheck hblind, ite_self]
  · -- Whether this rule is silenced is asked of the class, which has not changed; what has changed
    -- is that it skips the case.
    have hbad : namedBadly (k.withSuppressed [v])
        = (namedBadly k && !dropped v allPresentId) := by
      simp only [namedBadly, skipsAllPresent_withSuppressed, Bool.not_or]
      exact Bool.and_right_comm ..
    rw [allTestsInPresentSimple_aboutCase, allTestsInPresentSimple_aboutCase, hbad]
    show _ = if dropped v allPresentId then _ else _
    cases dropped v allPresentId
    · simp only [Bool.not_false, Bool.and_true, Bool.false_eq_true, if_false]
      rfl
    · simp

end

end Rule

/-! ## Complaints with the case that they are about -/

/-- The complaints of rules about a class, each with the index of the case that it is about, or
without one if it is about the class. -/
def attributed (rules : List Rule) (context : Context) (everywhere : OrderedSet String)
    (c : TestClass) : List (Option Nat × Complaint) :=
  rules.flatMap fun r =>
    (r.aboutClass context everywhere c).map (none, ·)
      ++ c.cases.zipIdx.flatMap fun (k, i) =>
        (r.aboutCase context everywhere c k).map (some i, ·)

/-- Numbering the cases does not change what is said about them. -/
theorem zipIdx_flatMap_snd (say : TestCase → List Complaint) (ks : List TestCase) (n : Nat) :
    ((ks.zipIdx n).flatMap fun (k, i) => (say k).map (some i, ·)).map Prod.snd
      = ks.flatMap say := by
  induction ks generalizing n with
  | nil => rfl
  | cons k ks ih =>
      simp only [List.zipIdx_cons, List.flatMap_cons, List.map_append, List.map_map, ih]
      congr 1
      exact List.map_id _

/-- Complaints about cases behind an index are not about the case at the index. -/
theorem zipIdx_flatMap_filter_of_lt (say : TestCase → List Complaint) (drop : Complaint → Bool)
    {ks : List TestCase} {i n : Nat} (h : i < n) :
    ((ks.zipIdx n).flatMap fun (k, j) => (say k).map (some j, ·)).filter
        (fun e => !(e.1 == some i && drop e.2))
      = (ks.zipIdx n).flatMap fun (k, j) => (say k).map (some j, ·) := by
  refine List.filter_eq_self.mpr fun e he => ?_
  obtain ⟨⟨k, j⟩, hkj, he⟩ := List.mem_flatMap.mp he
  obtain ⟨x, -, rfl⟩ := List.mem_map.mp he
  have hj : n ≤ j := List.le_snd_of_mem_zipIdx hkj
  have hne : (some j == some i) = false := by simp; omega
  rw [hne]
  rfl

/-- If a change of a case takes away what `drop` says, then changing the case at an index takes it
away from the complaints about that case. -/
theorem zipIdx_flatMap_modify {say : TestCase → List Complaint} {change : TestCase → TestCase}
    {drop : Complaint → Bool} (hchange : ∀ k, say (change k) = (say k).filter fun x => !drop x)
    (ks : List TestCase) (i n : Nat) :
    (((ks.modify i change).zipIdx n).flatMap fun (k, j) => (say k).map (some j, ·))
      = ((ks.zipIdx n).flatMap fun (k, j) => (say k).map (some j, ·)).filter
          fun e => !(e.1 == some (n + i) && drop e.2) := by
  -- The number of the first case grows along the list while the index to change shrinks; their sum
  -- is the number that the changed case has from the start.
  induction ks generalizing i n with
  | nil => simp
  | cons k ks ih =>
      cases i with
      | zero =>
          simp only [List.modify_zero_cons, List.zipIdx_cons, List.flatMap_cons,
            List.filter_append, hchange, Nat.add_zero]
          rw [zipIdx_flatMap_filter_of_lt say drop (Nat.lt_succ_self n), List.filter_map]
          congr 3
          funext x
          simp
      | succ i =>
          simp only [List.modify_succ_cons, List.zipIdx_cons, List.flatMap_cons,
            List.filter_append, ih i (n + 1)]
          have hhead : ∀ e ∈ (say k).map ((some n, ·) : Complaint → Option Nat × Complaint),
              (!(e.1 == some (n + (i + 1)) && drop e.2)) = true := by
            intro e he
            obtain ⟨x, -, rfl⟩ := List.mem_map.mp he
            have hne : (some n == some (n + (i + 1))) = false := by simp
            rw [hne]
            rfl
          rw [List.filter_eq_self.mpr hhead, show n + 1 + i = n + (i + 1) by omega]

section

variable {rules : List Rule} {context : Context} {everywhere : OrderedSet String} {c : TestClass}
  {v : String}

/-- The attributed complaints are the complaints, in the same order. -/
theorem attributed_snd (hrules : ∀ r ∈ rules, r ∈ Rule.registry) :
    (attributed rules context everywhere c).map Prod.snd
      = classComplaints rules context everywhere c := by
  rw [attributed, classComplaints, List.map_flatMap]
  refine List.flatMap_congr fun r hr => ?_
  rw [Rule.complaints_split (hrules r hr), List.map_append, zipIdx_flatMap_snd, List.map_map]
  congr 1
  exact List.map_id _

theorem classComplaints_withSuppressed (hrules : ∀ r ∈ rules, r ∈ Rule.registry)
    (hc : c.Handed) :
    classComplaints rules context everywhere (c.withSuppressed [v])
      = (classComplaints rules context everywhere c).filter
          fun x => !Suppression.names v x.rule := by
  rw [classComplaints, classComplaints, List.filter_flatMap]
  refine List.flatMap_congr fun r hr => ?_
  rw [Rule.complaints_split (hrules r hr), Rule.complaints_split (hrules r hr),
    List.filter_append, ← Rule.aboutClass_withSuppressed (hrules r hr), List.filter_flatMap]
  congr 1
  rw [show (c.withSuppressed [v]).cases
    = c.cases.map fun k => k.inherit (c.suppressed.insertAll [v]) from rfl, List.flatMap_map]
  exact List.flatMap_congr fun k hk => Rule.aboutCase_inherit (hrules r hr) (hc k hk)

theorem aboutClass_suppressCase {r : Rule} (hr : r ∈ Rule.registry) (i : Nat) :
    r.aboutClass context everywhere (c.suppressCase i v)
      = r.aboutClass context everywhere c := by
  rcases Rule.registry_cases hr with ⟨messages, hcheck, -, -⟩ | ⟨messages, hcheck, hblind⟩ | rfl
  · simp only [Rule.aboutClass, hcheck]
  · have hmessages : messages context (c.suppressCase i v) = messages context c :=
      hblind.2 context c c.suppressed _
    rw [Rule.aboutClass_of_checksClass hcheck hblind, Rule.aboutClass_of_checksClass hcheck hblind,
      hmessages]
    congr 2
  · rw [Rule.allTestsInPresentSimple_aboutClass, Rule.allTestsInPresentSimple_aboutClass]

theorem aboutCase_suppressCase (r : Rule) (i : Nat) :
    r.aboutCase context everywhere (c.suppressCase i v)
      = r.aboutCase context everywhere c := by
  funext k
  unfold Rule.aboutCase
  split
  · congr 2
  · rfl

theorem attributed_suppressCase (hrules : ∀ r ∈ rules, r ∈ Rule.registry) (i : Nat) :
    attributed rules context everywhere (c.suppressCase i v)
      = (attributed rules context everywhere c).filter
          fun e => !(e.1 == some i && Rule.dropped v e.2.rule) := by
  rw [attributed, attributed, List.filter_flatMap]
  refine List.flatMap_congr fun r hr => ?_
  have hclass : ∀ e ∈ (r.aboutClass context everywhere c).map
      ((none, ·) : Complaint → Option Nat × Complaint),
      (!(e.1 == some i && Rule.dropped v e.2.rule)) = true := by
    intro e he
    obtain ⟨x, -, rfl⟩ := List.mem_map.mp he
    rfl
  rw [aboutClass_suppressCase (hrules r hr), aboutCase_suppressCase, List.filter_append,
    List.filter_eq_self.mpr hclass]
  congr 1
  have hchange : ∀ k : TestCase, r.aboutCase context everywhere c (k.withSuppressed [v])
      = (r.aboutCase context everywhere c k).filter fun x => !Rule.dropped v x.rule :=
    fun k => Rule.aboutCase_withSuppressed (hrules r hr)
  have hmodify := zipIdx_flatMap_modify hchange c.cases i 0
  rwa [Nat.zero_add] at hmodify

end

/-- **A suppression filters complaints.** On a class it drops exactly the complaints of the rules
that it names. On the case at an index it drops exactly the complaints about that case of the rules
that it names and, if it names the rule about one name or the rule about all names of a class, the
complaint of the latter about that case. Every other complaint keeps its place. -/
theorem suppression_filters (rules : List Rule) (hrules : ∀ r ∈ rules, r ∈ Rule.registry)
    (context : Context) (everywhere : OrderedSet String) (c : TestClass) (hc : c.Built)
    (v : String) :
    classComplaints rules context everywhere (c.withSuppressed [v])
        = (classComplaints rules context everywhere c).filter
            (fun x => !Suppression.names v x.rule)
    ∧ (∀ c' : TestClass, (attributed rules context everywhere c').map Prod.snd
        = classComplaints rules context everywhere c')
    ∧ ∀ i, attributed rules context everywhere (c.suppressCase i v)
        = (attributed rules context everywhere c).filter fun e =>
            !(e.1 == some i && (Suppression.names v e.2.rule
              || (e.2.rule == Rule.allTestsInPresentSimple.id
                && Suppression.names v Rule.presentTense.id))) :=
  ⟨classComplaints_withSuppressed hrules hc.handed, fun _ => attributed_snd hrules,
    attributed_suppressCase hrules⟩

/-- Two cases of one name, of which the second one suppresses the rule about one name by its
alias. -/
theorem suppression_filters_twins :
    (∀ r ∈ Rule.registry, r ∈ Rule.registry)
    ∧ (TestClass.fake.withCases [.named "remove", .named "remove"]).Built
    ∧ attributed Rule.registry (Context.new (.error "no model") []) ∅
        ((TestClass.fake.withCases [.named "remove", .named "remove"]).suppressCase 1
          "JTCOP.RulePresentTense")
      = (attributed Rule.registry (Context.new (.error "no model") []) ∅
          (TestClass.fake.withCases [.named "remove", .named "remove"])).filter fun e =>
            !(e.1 == some 1 && (Suppression.names "JTCOP.RulePresentTense" e.2.rule
              || (e.2.rule == Rule.allTestsInPresentSimple.id
                && Suppression.names "JTCOP.RulePresentTense" Rule.presentTense.id))) := by
  have hbuilt : (TestClass.fake.withCases [.named "remove", .named "remove"]).Built :=
    ⟨_, _, _, [.cases [.named "remove", .named "remove"]], rfl⟩
  exact ⟨fun _ hr => hr, hbuilt,
    (suppression_filters Rule.registry (fun _ hr => hr) _ ∅ _ hbuilt "JTCOP.RulePresentTense").2.2
      1⟩

end SuiteLint
