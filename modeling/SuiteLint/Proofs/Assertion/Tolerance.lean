import SuiteLint.Proofs.Assertion.Spelling
import SuiteLint.Proofs.Suite.Folding

/-!
# Tolerances and messages

Behind the arguments that a JUnit assertion needs stands its message, unless a number stands there:
that is a tolerance (`JUnit.isDelta`). A number may be written as a constant, and a constant as the
name of another one, to any depth (`Scope.LeadsTo`).

The test for a number looks behind one name, the folding of messages behind eight. So the number
that one name leads to is left out of the explanation, while a number that two to eight names lead
to becomes the explanation, as if it were the text of a message
(`explanation_eq_none_iff_leadsTo`, `explained_by_chained_number`).
-/

namespace SuiteLint

/-- A number literal, as such or at the end of a chain of constants that are names, with the length
of the chain. -/
inductive Scope.LeadsTo (scope : Scope) : Nat → Expr → String → Prop
  | number (text : String) : scope.LeadsTo 0 (.number text) text
  | name {n : Nat} {name text : String} {value : Expr} (hvalue : scope.HasConstant name value)
      (hrest : scope.LeadsTo n value text) : scope.LeadsTo (n + 1) (.name name) text

namespace Scope.LeadsTo

variable {scope : Scope} {n : Nat} {e : Expr} {text : String}

theorem of_resolve {name : String} {value : Expr} (hvalue : scope.resolve name = some value)
    (hrest : scope.LeadsTo n value text) : scope.LeadsTo (n + 1) (.name name) text :=
  .name (resolve_eq_some_iff.mp hvalue) hrest

theorem eq_zero_iff (h : scope.LeadsTo n e text) : e.isNumber = true ↔ n = 0 := by
  cases h with
  | number => exact iff_of_true rfl rfl
  | name => exact iff_of_false Bool.false_ne_true (Nat.succ_ne_zero _)

/-- The test for a number sees a literal through one name. -/
theorem isDelta_iff (h : scope.LeadsTo n e text) :
    Assertion.JUnit.isDelta scope e = true ↔ n ≤ 1 := by
  cases h with
  | number => exact iff_of_true rfl (Nat.zero_le 1)
  | name hvalue hrest =>
      rw [Assertion.JUnit.isDelta, resolve_eq_some_iff.mpr hvalue, Option.any_some,
        hrest.eq_zero_iff]
      omega

theorem foldWithin (h : scope.LeadsTo n e text) (m : Nat) :
    scope.foldWithin m e = if n < m then some text else none := by
  induction h generalizing m with
  | number text => cases m <;> rfl
  | name hvalue _ ih =>
      cases m with
      | zero => rfl
      | succ m =>
          simp only [Scope.foldWithin, resolve_eq_some_iff.mpr hvalue, ih, Nat.succ_lt_succ_iff]

theorem explain (h : scope.LeadsTo n e text) :
    Assertion.explain scope e = if n ≤ 8 then text else Assertion.unknownExplanation := by
  rw [Assertion.explain, Scope.fold, h.foldWithin, maxFoldDepth]
  by_cases hn : n ≤ 8
  · rw [if_pos hn, if_pos (Nat.lt_succ_of_le hn), Option.getD_some]
  · rw [if_neg hn, if_neg fun hlt => hn (Nat.le_of_lt_succ hlt), Option.getD_none]

end Scope.LeadsTo

namespace Assertion

variable {scope : Scope} {call : Invocation} {last : Expr} {a : Assertion}

theorem exists_leadsTo_of_isDelta {e : Expr} (h : JUnit.isDelta scope e = true) :
    ∃ n ≤ 1, ∃ text, scope.LeadsTo n e text := by
  cases e with
  | number text => exact ⟨0, Nat.zero_le 1, text, .number text⟩
  | name name =>
      rw [JUnit.isDelta, Option.any_eq_true] at h
      obtain ⟨value, hvalue, hnumber⟩ := h
      cases value with
      | number text =>
          exact ⟨1, Nat.le_refl 1, text, .of_resolve hvalue (.number text)⟩
      | str | bool | null | name | call | lambda | procedure | concat | creation | other =>
          cases hnumber
  | str | bool | null | call | lambda | procedure | concat | creation | other => cases h

/-- A call to a JUnit assertion with more arguments than it needs, of which `last` is the last. The
two methods that take their message first are left out. -/
structure JUnit.Trails (call : Invocation) (last : Expr) : Prop where
  method : call.method ≠ "fail" ∧ call.method ≠ "assertAll"
  arity : ∃ arity, arity? call.method = some arity ∧ arity < call.args.length
  last : call.args.getLast? = some last

theorem explanation_of_trails (h : JUnit.Trails call last)
    (hcall : recognize? scope call = some a) :
    a.explanation = if JUnit.isDelta scope last then none else some (explain scope last) := by
  obtain ⟨arity, harity, hmore⟩ := h.arity
  have hmessage : JUnit.message? scope arity call.method call.args
      = (some last).filter fun e => !JUnit.isDelta scope e := by
    simp only [JUnit.message?, beq_iff_eq, h.method.1, h.method.2, if_false,
      JUnit.trailingMessage?, h.last, Nat.not_le.mpr hmore]
  rw [recognize?_of_arity harity, JUnit.recognize?, harity] at hcall
  simp only [hmessage, Option.ite_none_right_eq_some, Option.some.injEq] at hcall
  obtain ⟨-, rfl⟩ := hcall
  cases hdelta : JUnit.isDelta scope last <;> simp [hdelta]

/-- **A number behind the arguments is a tolerance exactly if at most one name leads to it.** If
more names do, the number is the explanation, or the explanation is unknown when folding gives up
before it is reached. -/
theorem explanation_eq_none_iff_leadsTo (h : JUnit.Trails call last)
    (hcall : recognize? scope call = some a) :
    (a.explanation = none ↔ ∃ n ≤ 1, ∃ text, scope.LeadsTo n last text)
    ∧ ∀ n text, scope.LeadsTo n last text → 1 < n →
        a.explanation = some (if n ≤ 8 then text else unknownExplanation) := by
  have hexplanation := explanation_of_trails h hcall
  constructor
  · constructor
    · intro hnone
      refine exists_leadsTo_of_isDelta ?_
      by_contra hdelta
      rw [hexplanation, if_neg hdelta] at hnone
      cases hnone
    · rintro ⟨n, hn, text, hleads⟩
      rw [hexplanation, if_pos (hleads.isDelta_iff.mpr hn)]
  · intro n text hleads hn
    have hdelta : ¬JUnit.isDelta scope last = true := fun hdelta =>
      Nat.not_le.mpr hn (hleads.isDelta_iff.mp hdelta)
    rw [hexplanation, if_neg hdelta, hleads.explain]

/-- A class with a number, a constant defined by it, and one defined by that constant. -/
def scalesScope : Scope where
  className := "ScalesTest"
  constants := [("EPS", .number "0.001"), ("TOLERANCE", .name "ScalesTest.EPS"),
    ("LIMIT", .name "this.TOLERANCE")]

/-- A comparison with a constant behind the two values. -/
def weighs (tolerance : String) : Invocation :=
  { receiver := .named "Assertions", method := "assertEquals", line := 3
    args := [.number "1.0", .name "weight", .name tolerance] }

theorem trails_weighs (tolerance : String) : JUnit.Trails (weighs tolerance) (.name tolerance) where
  method := (by decide : "assertEquals" ≠ "fail" ∧ "assertEquals" ≠ "assertAll")
  arity := ⟨2, (by decide : JUnit.arity? "assertEquals" = some 2), Nat.lt_succ_self 2⟩
  last := rfl

/-- One name and three names in front of the same number. -/
theorem explanation_eq_none_iff_leadsTo_scales :
    (JUnit.Trails (weighs "EPS") (.name "EPS")
      ∧ ∃ a, recognize? scalesScope (weighs "EPS") = some a ∧ a.explanation = none)
    ∧ JUnit.Trails (weighs "LIMIT") (.name "LIMIT")
      ∧ ∃ a, recognize? scalesScope (weighs "LIMIT") = some a ∧ a.explanation = some "0.001" := by
  have heps : scalesScope.LeadsTo 1 (.name "EPS") "0.001" := .of_resolve rfl (.number _)
  have hlimit : scalesScope.LeadsTo 3 (.name "LIMIT") "0.001" :=
    .of_resolve rfl (.of_resolve rfl (.of_resolve rfl (.number _)))
  have hone : recognize? scalesScope (weighs "EPS")
      = some ⟨none, false, true, "assertEquals", 3⟩ := by decide
  have hthree : recognize? scalesScope (weighs "LIMIT")
      = some ⟨some "0.001", false, true, "assertEquals", 3⟩ := by decide
  refine ⟨⟨trails_weighs "EPS", _, hone, ?_⟩, trails_weighs "LIMIT", _, hthree, ?_⟩
  · exact (explanation_eq_none_iff_leadsTo (trails_weighs "EPS") hone).1.mpr
      ⟨1, Nat.le_refl 1, _, heps⟩
  · exact (explanation_eq_none_iff_leadsTo (trails_weighs "LIMIT") hthree).2 3 _ hlimit (by decide)

/-- A tolerance that is a constant defined by another constant is taken for a message. -/
theorem explained_by_chained_number :
    JUnit.Trails (weighs "TOLERANCE") (.name "TOLERANCE")
    ∧ scalesScope.LeadsTo 2 (.name "TOLERANCE") "0.001"
    ∧ recognize? scalesScope (weighs "TOLERANCE")
        = some ⟨some "0.001", false, true, "assertEquals", 3⟩ := by
  have htolerance : scalesScope.LeadsTo 2 (.name "TOLERANCE") "0.001" :=
    .of_resolve rfl (.of_resolve rfl (.number _))
  exact ⟨trails_weighs "TOLERANCE", htolerance, by decide⟩

end Assertion

end SuiteLint
