import SuiteLint.Proofs.Assertion.LineHitter

/-!
# Truth values matched against themselves

A Hamcrest assertion cannot fail if its subject is a truth value and its matcher asks for that
value, through any number of equality matchers one inside the other (`Hamcrest.AsksFor`). The
reading of the arguments has to find this under two forms, with and without a reason, of which the
shorter one competes with the form that has a reason and a condition. That form never takes a
matched truth value away from it: a truth value is no text, and a call is no literal.
-/

namespace SuiteLint.Assertion

/-- One or more equality matchers, one inside the other, around a truth value. -/
inductive Hamcrest.AsksFor (value : Bool) : Expr → Prop
  | literal {receiver : Receiver} {name : String} {line : Nat}
      (hname : name = "is" ∨ name = "equalTo") :
      AsksFor value (.call receiver name [.bool value] line)
  | nested {receiver : Receiver} {name : String} {line : Nat} {inner : Expr}
      (hname : name = "is" ∨ name = "equalTo") (hinner : AsksFor value inner) :
      AsksFor value (.call receiver name [inner] line)

namespace Hamcrest

variable {value : Bool} {subject matcher : Expr}

theorem contains_equalityMatchers {name : String} :
    equalityMatchers.contains name = true ↔ name = "is" ∨ name = "equalTo" := by
  simp [equalityMatchers]

theorem asksFor_of_expectedBool? (h : expectedBool? matcher = some value) :
    matcher = .bool value ∨ AsksFor value matcher := by
  fun_induction expectedBool? matcher with
  | case1 found => exact Or.inl (congrArg Expr.bool (Option.some.inj h))
  | case2 receiver name inner line hname ih =>
      rw [contains_equalityMatchers] at hname
      rcases ih h with rfl | hinner
      · exact Or.inr (.literal hname)
      · exact Or.inr (.nested hname hinner)
  | case3 | case4 => cases h

theorem AsksFor.expectedBool? (h : AsksFor value matcher) :
    Hamcrest.expectedBool? matcher = some value := by
  induction h with
  | literal hname =>
      rw [Hamcrest.expectedBool?, if_pos (contains_equalityMatchers.mpr hname)]
      rfl
  | nested hname _ ih =>
      rw [Hamcrest.expectedBool?, if_pos (contains_equalityMatchers.mpr hname)]
      exact ih

/-- A truth value counts as matched against itself only under such matchers. The literal alone, as
it stands in the form with a reason and a condition, is no call. -/
theorem isTautology_call_iff {receiver : Receiver} {name : String} {args : List Expr} {line : Nat} :
    isTautology subject (.call receiver name args line) = true ↔
      ∃ value, subject = .bool value ∧ AsksFor value (.call receiver name args line) := by
  constructor
  · intro h
    cases subject with
    | bool value =>
        rw [isTautology, beq_iff_eq] at h
        exact ⟨value, rfl, (asksFor_of_expectedBool? h).resolve_left Expr.noConfusion⟩
    | str | number | null | name | call | lambda | procedure | concat | creation | other => cases h
  · rintro ⟨value, rfl, h⟩
    rw [isTautology, beq_iff_eq]
    exact h.expectedBool?

end Hamcrest

variable {scope : Scope} {receiver : Receiver} {line : Nat}

theorem explanation_of_reason {reason subject matcher : Expr} {a : Assertion}
    (h : recognize? scope ⟨receiver, Hamcrest.method, [reason, subject, matcher], line⟩ = some a) :
    a.explanation = some (explain scope reason) := by
  rw [recognize?_of_method rfl, Hamcrest.recognize?] at h
  split at h
  · obtain ⟨⟨_, _⟩, hread, rfl⟩ := Option.map_eq_some_iff.mp h
    obtain ⟨rfl, -⟩ := Prod.mk.inj (Option.some.inj hread)
    rfl
  · cases h

theorem exists_recognize?_of_spells {args : List Expr}
    (hspells : Spells Hamcrest.owner Hamcrest.method scope.staticImports receiver)
    (hlength : args.length = 2 ∨ args.length = 3) :
    ∃ a, recognize? scope ⟨receiver, Hamcrest.method, args, line⟩ = some a :=
  Option.isSome_iff_exists.mp
    (isSome_recognize?_iff.mpr ⟨_, .hamcrest rfl, hspells, Or.inr hlength⟩)

/-- **A Hamcrest assertion on a matcher cannot fail exactly if it asks a truth value for itself**,
however deep the equality matchers are nested and whether or not a reason stands in front. With a
reason there is always an explanation. -/
theorem matched_literal_iff (scope : Scope) (receiver : Receiver) (line : Nat)
    (hspells : Spells Hamcrest.owner Hamcrest.method scope.staticImports receiver)
    (reason subject : Expr) (on : Receiver) (name : String) (args : List Expr) (row : Nat) :
    ∃ plain reasoned : Assertion,
      recognize? scope ⟨receiver, Hamcrest.method, [subject, .call on name args row], line⟩
          = some plain
      ∧ recognize? scope
          ⟨receiver, Hamcrest.method, [reason, subject, .call on name args row], line⟩
          = some reasoned
      ∧ plain.isLineHitter = reasoned.isLineHitter
      ∧ (reasoned.isLineHitter = true ↔
          ∃ value, subject = .bool value ∧ Hamcrest.AsksFor value (.call on name args row))
      ∧ ∃ text, reasoned.explanation = some text
          ∧ (scope.fold reason = some text
            ∨ scope.fold reason = none ∧ text = unknownExplanation) := by
  obtain ⟨plain, hplain⟩ : ∃ a, recognize? scope
      ⟨receiver, Hamcrest.method, [subject, .call on name args row], line⟩ = some a :=
    exists_recognize?_of_spells hspells (Or.inl rfl)
  obtain ⟨reasoned, hreasoned⟩ : ∃ a, recognize? scope
      ⟨receiver, Hamcrest.method, [reason, subject, .call on name args row], line⟩ = some a :=
    exists_recognize?_of_spells hspells (Or.inr rfl)
  -- Both forms leave the same test to the subject and the matcher.
  have hshort : plain.isLineHitter = Hamcrest.isTautology subject (.call on name args row) :=
    (recognize?_fields hplain).2.2.2
  have hlong : reasoned.isLineHitter = Hamcrest.isTautology subject (.call on name args row) :=
    (recognize?_fields hreasoned).2.2.2
  refine ⟨plain, reasoned, hplain, hreasoned, hshort.trans hlong.symm, ?_, ?_⟩
  · rw [hlong, Hamcrest.isTautology_call_iff]
  · refine ⟨_, explanation_of_reason hreasoned, ?_⟩
    rw [explain]
    cases scope.fold reason with
    | some text => exact Or.inl rfl
    | none => exact Or.inr ⟨rfl, rfl⟩

/-- A false value behind two matchers, one of them qualified, with a reason that is not known. -/
theorem matched_literal_iff_nested :
    Spells Hamcrest.owner Hamcrest.method [] (.named "org.hamcrest.MatcherAssert")
    ∧ ∃ a, recognize? {} ⟨.named "org.hamcrest.MatcherAssert", Hamcrest.method,
          [.name "why", .bool false, .call .unqualified "is"
            [.call (.named "CoreMatchers") "equalTo" [.bool false] 4] 4], 4⟩ = some a
        ∧ a.isLineHitter = true ∧ a.explanation = some unknownExplanation := by
  have hspells : Spells Hamcrest.owner Hamcrest.method [] (.named "org.hamcrest.MatcherAssert") :=
    .qualified (Or.inr ⟨"org.hamcrest", by decide⟩)
  obtain ⟨_, a, -, ha, -, hhitter, text, htext, hfold⟩ :=
    matched_literal_iff {} _ 4 hspells (.name "why") (.bool false) .unqualified "is"
      [.call (.named "CoreMatchers") "equalTo" [.bool false] 4] 4
  refine ⟨hspells, a, ha, hhitter.mpr ⟨false, rfl, ?_⟩, ?_⟩
  · exact .nested (Or.inl rfl) (.literal (Or.inr rfl))
  · rcases hfold with hknown | ⟨-, rfl⟩
    · cases hknown
    · exact htext

end SuiteLint.Assertion
