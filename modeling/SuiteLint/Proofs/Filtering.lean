import SuiteLint.Proofs.Evaluation
import SuiteLint.Proofs.Sorting
import SuiteLint.Proofs.Suppression

/-!
# Suppressions and selections filter reports

To silence rules everywhere, or to run only some of them, has the same effect as to go through the
finished report and strike complaints by their rule (`evaluate_filters`). Three facts make it so.
A rule puts its own identifier on everything it says (`Rule.rule_of_mem_complaints`). What is said
by the rules that remain does not depend on the others. And complaints may be struck before or
after the report is arranged (`Complaint.arrange_filter`): the sort is stable, and complaints that
say the same are of the same rule, so they are struck together.
-/

namespace SuiteLint

/-! ## Arranging and striking -/

namespace Complaint

theorem ranks : Ranks le := ⟨fun _ _ _ => le_trans, le_total⟩

/-- Complaints that say the same are struck together. -/
def Respects (keep : Complaint → Bool) : Prop := ∀ a b : Complaint, a.same b = true → keep a = keep b

theorem respects_rule (keep : String → Bool) : Respects fun c => keep c.rule := by
  intro a b h
  simp only [same, Bool.and_eq_true, beq_iff_eq] at h
  exact congrArg keep h.1.1.1.1.1

theorem dropRepeats_go_of_not_same {last : Complaint} {cs : List Complaint}
    (h : ∀ c ∈ cs, ¬last.same c = true) : dropRepeats.go last cs = dropRepeats cs := by
  cases cs with
  | nil => rfl
  | cons c rest => rw [dropRepeats.go, if_neg (h c List.mem_cons_self), dropRepeats]

variable {keep : Complaint → Bool}

theorem dropRepeats_filter_cons (hkeep : Respects keep) {last : Complaint} {cs : List Complaint}
    (hsorted : (last :: cs).Pairwise fun a b => a.le b = true) :
    dropRepeats ((last :: cs).filter keep) = (last :: dropRepeats.go last cs).filter keep := by
  induction cs generalizing last with
  | nil => cases hlast : keep last <;> simp [hlast, dropRepeats, dropRepeats.go]
  | cons c rest ih =>
      obtain ⟨hlast, hrest⟩ := List.pairwise_cons.mp hsorted
      by_cases hsame : last.same c = true
      · -- `c` is dropped as a repetition, before striking or after it.
        have hstep : dropRepeats ((last :: c :: rest).filter keep)
            = dropRepeats ((last :: rest).filter keep) := by
          have hboth := hkeep last c hsame
          cases hc : keep c with
          | false => rw [hc] at hboth; simp [hboth, hc]
          | true => rw [hc] at hboth; simp [hboth, hc, dropRepeats, dropRepeats.go, hsame]
        rw [hstep, dropRepeats.go, if_pos hsame]
        exact ih (List.pairwise_cons.mpr
          ⟨fun x hx => hlast x (List.mem_cons_of_mem _ hx), hrest.of_cons⟩)
      · rw [dropRepeats.go, if_neg hsame]
        -- What follows is strictly above `last`, so `last` is repeated by nothing.
        have habove : ∀ x ∈ (c :: rest).filter keep, ¬last.same x = true := by
          intro x hx
          have hlc := (lt_or_same_of_le (hlast c List.mem_cons_self)).resolve_right hsame
          have hcx : (c.cmp x).isLE = true := by
            rw [← le_eq_isLE]
            exact ranks.head_le hrest (List.mem_of_mem_filter hx)
          exact not_same_of_lt (Std.TransCmp.lt_of_lt_of_isLE hlc hcx)
        cases hk : keep last with
        | false => simpa [hk] using ih hrest
        | true =>
            rw [List.filter_cons_of_pos hk, List.filter_cons_of_pos hk, dropRepeats,
              dropRepeats_go_of_not_same habove, ih hrest]

/-- Complaints may be struck before or after the others are arranged. -/
theorem arrange_filter (hkeep : Respects keep) (cs : List Complaint) :
    arrange (cs.filter keep) = (arrange cs).filter keep := by
  rw [arrange, arrange, ← ranks.filter_mergeSort]
  have hsorted := sorted_mergeSort cs
  cases hcs : cs.mergeSort le with
  | nil => rfl
  | cons c rest =>
      rw [hcs] at hsorted
      exact dropRepeats_filter_cons hkeep hsorted

end Complaint

/-! ## Rules and their identifiers -/

section

variable (rules : List Rule) (context : Context) (everywhere : OrderedSet String) (c : TestClass)
  (p : Project)

theorem Rule.rule_of_mem_complaints {r : Rule} {x : Complaint}
    (hx : x ∈ r.complaints context everywhere c) : x.rule = r.id := by
  cases mem_complaints.mp hx with
  | @aboutClass messages m =>
      obtain ⟨k, message⟩ := m
      cases k <;> rfl
  | aboutCase => rfl

/-- What strikes the complaints about each class strikes those of the report. -/
theorem evaluate_eq_filter_of_respects {rules' : List Rule} {context' : Context}
    {everywhere' : OrderedSet String} {keep : Complaint → Bool} (hkeep : Complaint.Respects keep)
    (h : ∀ c : TestClass, classComplaints rules' context' everywhere' c
      = (classComplaints rules context everywhere c).filter keep) :
    evaluate rules' context' everywhere' p = (evaluate rules context everywhere p).filter keep := by
  rw [evaluate, evaluate, ← Complaint.arrange_filter hkeep, List.filter_flatMap]
  exact congrArg Complaint.arrange (List.flatMap_congr fun c _ => h c)

/-- What strikes the complaints about each class by their rule strikes those of the report. -/
theorem evaluate_eq_filter {rules' : List Rule} {everywhere' : OrderedSet String}
    (keep : String → Bool)
    (h : ∀ c : TestClass, classComplaints rules' context everywhere' c
      = (classComplaints rules context everywhere c).filter fun x => keep x.rule) :
    evaluate rules' context everywhere' p
      = (evaluate rules context everywhere p).filter fun x => keep x.rule :=
  evaluate_eq_filter_of_respects rules context everywhere p (Complaint.respects_rule keep) h

/-! ## Suppressions of the whole analysis -/

theorem Suppression.silences_union (more target : OrderedSet String) (rule : String) :
    silences (everywhere.union more) target rule
      = (silences everywhere target rule || covers more rule) := by
  rw [silences, silences, OrderedSet.union, covers_insertAll, Bool.or_right_comm]
  rfl

theorem Rule.complaints_union (more : OrderedSet String) (r : Rule) :
    r.complaints context (everywhere.union more) c
      = (r.complaints context everywhere c).filter fun x => !Suppression.covers more x.rule := by
  rw [filter_rule fun _ => rule_of_mem_complaints context everywhere c]
  cases hcheck : r.check with
  | ofClass messages => simp only [complaints, hcheck, Suppression.silences_union, ite_or_nil]
  | ofCase messages =>
      simp only [complaints, hcheck, Suppression.silences_union, ite_or_nil]
      cases Suppression.covers more r.id with
      | false => rfl
      | true => simp

theorem classComplaints_union (more : OrderedSet String) :
    classComplaints rules context (everywhere.union more) c
      = (classComplaints rules context everywhere c).filter
          fun x => !Suppression.covers more x.rule := by
  rw [classComplaints, classComplaints, List.filter_flatMap]
  exact List.flatMap_congr fun r _ => r.complaints_union context everywhere c more

/-! ## Selections -/

theorem classComplaints_filter (keep : String → Bool) :
    classComplaints (rules.filter fun r => keep r.id) context everywhere c
      = (classComplaints rules context everywhere c).filter fun x => keep x.rule := by
  induction rules with
  | nil => rfl
  | cons r rules ih =>
      have hrule := Rule.filter_rule (fun _ => r.rule_of_mem_complaints context everywhere c)
        fun id => !keep id
      simp only [Bool.not_not] at hrule
      simp only [classComplaints] at ih ⊢
      rw [List.flatMap_cons, List.filter_append, ← ih, hrule]
      cases hk : keep r.id <;> simp [hk]

end

namespace Rule.Selection

theorem resolve_all : all.resolve = .ok registry := rfl

/-- A selection of registered rules can be made. -/
theorem resolve_only {ids : OrderedSet String} (h : ∀ id ∈ ids.toList, ∃ r ∈ registry, r.id = id) :
    (only ids).resolve = .ok (registry.filter fun r => ids.contains r.id) := by
  have hknown : ids.toList.find? (fun id => (Rule.find? id).isNone) = none := by
    refine List.find?_eq_none.mpr fun id hid => ?_
    obtain ⟨r, hr, rfl⟩ := h id hid
    have hfound : (Rule.find? r.id).isSome = true :=
      List.find?_isSome.mpr ⟨r, hr, beq_self_eq_true r.id⟩
    rw [← Option.not_isSome, hfound]
    simp
  simp only [resolve, hknown, includes]

end Rule.Selection

/-- **Suppressions and selections filter reports.** To silence more rules everywhere strikes the
complaints of the rules that are named, and to run only some of the registered rules strikes those
of the others; the remaining complaints keep their order. -/
theorem evaluate_filters (context : Context) (p : Project) :
    (∀ (rules : List Rule) (everywhere more : OrderedSet String),
      evaluate rules context (everywhere.union more) p
        = (evaluate rules context everywhere p).filter
            fun x => !Suppression.covers more x.rule)
    ∧ ∀ ids : OrderedSet String, (∀ id ∈ ids.toList, ∃ r ∈ Rule.registry, r.id = id) →
      ∃ every selected, Rule.Selection.all.resolve = .ok every
        ∧ (Rule.Selection.only ids).resolve = .ok selected
        ∧ ∀ everywhere, evaluate selected context everywhere p
            = (evaluate every context everywhere p).filter fun x => ids.contains x.rule := by
  refine ⟨fun rules everywhere more => ?_, fun ids hids => ?_⟩
  · exact evaluate_eq_filter rules context everywhere p (fun rule => !Suppression.covers more rule)
      fun c => classComplaints_union rules context everywhere c more
  · refine ⟨_, _, Rule.Selection.resolve_all, Rule.Selection.resolve_only hids,
      fun everywhere => ?_⟩
    exact evaluate_eq_filter Rule.registry context everywhere p ids.contains
      fun c => classComplaints_filter Rule.registry context everywhere c ids.contains

/-- Two rules are selected for a class whose names break several. -/
theorem evaluate_filters_pair :
    (∀ id ∈ (OrderedSet.ofList ["RuleNotSpam", "RulePresentTense"]).toList,
      ∃ r ∈ Rule.registry, r.id = id)
    ∧ ∃ every selected, Rule.Selection.all.resolve = .ok every
      ∧ (Rule.Selection.only (.ofList ["RuleNotSpam", "RulePresentTense"])).resolve = .ok selected
      ∧ ∀ everywhere,
        evaluate selected (Context.new (.error "no model") []) everywhere
            ⟨[TestClass.fake.withCases [.named "remove", .named "addAddItem"]], []⟩
          = (evaluate every (Context.new (.error "no model") []) everywhere
              ⟨[TestClass.fake.withCases [.named "remove", .named "addAddItem"]], []⟩).filter
            fun x => (OrderedSet.ofList ["RuleNotSpam", "RulePresentTense"]).contains x.rule := by
  have hids : ∀ id ∈ (OrderedSet.ofList ["RuleNotSpam", "RulePresentTense"]).toList,
      ∃ r ∈ Rule.registry, r.id = id := by decide
  exact ⟨hids, (evaluate_filters _ _).2 _ hids⟩

end SuiteLint
