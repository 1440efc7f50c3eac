import Mathlib.Data.List.Forall2
import SuiteLint.Proofs.Assertion.Spelling
import SuiteLint.Rule.Asserting

/-!
# Assertions that cannot fail

Whether a call cannot fail is read off its arguments (`cannotFail`), although the constants in scope
take part in reading them: they tell a reason from a subject, and a tolerance from a message. A text
is no truth value, so the reading that takes the first argument for a reason and the one that takes
it for a subject agree that nothing is matched against itself (`Hamcrest.read?_snd`). Constants can
therefore change the explanation of an assertion and nothing else, and the rule about such
assertions says the same whatever they are.
-/

namespace SuiteLint

namespace Assertion

variable {scope scope' : Scope} {call : Invocation}

/-! ## Reading without constants -/

/-- Whether a Hamcrest assertion with these arguments cannot fail. -/
def Hamcrest.cannotFail : List Expr → Bool
  | [_, subject, matcher] => isTautology subject matcher
  | [_, .bool value] => value
  | [subject, matcher] => isTautology subject matcher
  | _ => false

/-- Whether an assertion cannot fail, by its method and its arguments. -/
def cannotFail (call : Invocation) : Bool :=
  if call.method == Hamcrest.method then Hamcrest.cannotFail call.args
  else JUnit.isLineHitter call.method call.args

theorem Hamcrest.isTautology_of_isText {first : Expr} (h : isText scope first = true)
    (second : Expr) : isTautology first second = false := by
  cases first with
  | bool value => cases h
  | str | number | null | name | call | lambda | procedure | concat | creation | other => rfl

theorem Hamcrest.cannotFail_pair {second : Expr} (hbool : ∀ value, second = .bool value → False)
    (first : Expr) : Hamcrest.cannotFail [first, second] = isTautology first second := by
  cases second with
  | bool value => exact (hbool value rfl).elim
  | str | number | null | name | call | lambda | procedure | concat | creation | other => rfl

theorem Hamcrest.read?_snd {args : List Expr} {reason : Option Expr} {hitter : Bool} :
    read? scope args = some (reason, hitter) → hitter = Hamcrest.cannotFail args := by
  fun_cases read? scope args with
  | case1 reason subject matcher =>
      intro h
      obtain ⟨-, rfl⟩ := Prod.mk.inj (Option.some.inj h)
      rfl
  | case2 reason value =>
      intro h
      obtain ⟨-, rfl⟩ := Prod.mk.inj (Option.some.inj h)
      rfl
  | case3 first second hbool htext =>
      intro h
      obtain ⟨-, rfl⟩ := Prod.mk.inj (Option.some.inj h)
      rw [Bool.and_eq_true] at htext
      rw [Hamcrest.cannotFail_pair hbool, isTautology_of_isText htext.1]
  | case4 first second hbool =>
      intro h
      obtain ⟨-, rfl⟩ := Prod.mk.inj (Option.some.inj h)
      rw [Hamcrest.cannotFail_pair hbool]
  | case5 => intro h; cases h

/-- Everything but the explanation of an assertion is told by the call. -/
theorem recognize?_fields {a : Assertion} (h : recognize? scope call = some a) :
    a.method = call.method ∧ a.line = call.line ∧ a.isAssertion = true
      ∧ a.isLineHitter = cannotFail call := by
  obtain ⟨owner, hdeclares, hspells, -⟩ := isSome_recognize?_iff.mp (Option.isSome_of_eq_some h)
  have hcalled := (isCalledOn_iff_spells hdeclares).mpr hspells
  cases hdeclares with
  | junit harity =>
      rw [recognize?_of_arity harity, JUnit.recognize?, harity] at h
      simp only [hcalled, if_true, Option.some.injEq] at h
      subst h
      refine ⟨rfl, rfl, rfl, ?_⟩
      rw [cannotFail, if_neg (by simpa using method_ne_of_arity? harity)]
  | hamcrest hmethod =>
      rw [recognize?_of_method hmethod, Hamcrest.recognize?, hmethod, hcalled] at h
      simp only [beq_self_eq_true, Bool.and_self, if_true, Option.map_eq_some_iff] at h
      obtain ⟨⟨reason, hitter⟩, hread, rfl⟩ := h
      refine ⟨hmethod.symm, rfl, rfl, ?_⟩
      rw [cannotFail, if_pos (beq_iff_eq.mpr hmethod)]
      exact Hamcrest.read?_snd hread

/-! ## Comparing two scopes -/

/-- Two assertions that differ at most in their explanations. -/
structure SameVerdict (a b : Assertion) : Prop where
  method : a.method = b.method
  line : a.line = b.line
  isAssertion : a.isAssertion = b.isAssertion
  isLineHitter : a.isLineHitter = b.isLineHitter

theorem recognize?_sameVerdict (himports : scope.staticImports = scope'.staticImports)
    (call : Invocation) :
    Option.Rel SameVerdict (recognize? scope call) (recognize? scope' call) := by
  have hsome : (recognize? scope call).isSome = (recognize? scope' call).isSome := by
    rw [Bool.eq_iff_iff, isSome_recognize?_iff, isSome_recognize?_iff, himports]
  cases h : recognize? scope call with
  | none =>
      cases h' : recognize? scope' call with
      | none => exact .none
      | some b => rw [h, h'] at hsome; cases hsome
  | some a =>
      cases h' : recognize? scope' call with
      | none => rw [h, h'] at hsome; cases hsome
      | some b =>
          obtain ⟨hmethod, hline, hassertion, hhitter⟩ := recognize?_fields h
          obtain ⟨hmethod', hline', hassertion', hhitter'⟩ := recognize?_fields h'
          exact .some ⟨hmethod.trans hmethod'.symm, hline.trans hline'.symm,
            hassertion.trans hassertion'.symm, hhitter.trans hhitter'.symm⟩

theorem extract_sameVerdict (himports : scope.staticImports = scope'.staticImports)
    (calls : List Invocation) :
    List.Forall₂ SameVerdict (extract scope calls) (extract scope' calls) := by
  have hcalls : List.Forall₂ Eq calls calls := List.forall₂_same.mpr fun _ _ => rfl
  refine List.rel_filterMap (fun call call' hcall => ?_) hcalls
  obtain rfl : call = call' := hcall
  exact recognize?_sameVerdict himports call

end Assertion

/-! ## The rule about assertions that cannot fail -/

theorem TestCase.assertions_sameVerdict {k k' : TestCase} (hcalls : k.invocations = k'.invocations)
    (hgiven : k.givenAssertions = k'.givenAssertions)
    (himports : k.scope.staticImports = k'.scope.staticImports) :
    List.Forall₂ Assertion.SameVerdict k.assertions k'.assertions := by
  rw [assertions, assertions, hcalls, hgiven]
  cases k'.givenAssertions with
  | some given => exact List.forall₂_same.mpr fun a _ => ⟨rfl, rfl, rfl, rfl⟩
  | none => exact Assertion.extract_sameVerdict himports k'.invocations

/-- A class whose cases know other constants. -/
def TestClass.rescoped (c : TestClass) (rescope : TestCase → Scope) : TestClass :=
  { c with cases := c.cases.map fun k => { k with scope := rescope k } }

theorem Rule.lineHitter_rescoped {c : TestClass} {rescope : TestCase → Scope}
    (himports : ∀ k ∈ c.cases, (rescope k).staticImports = k.scope.staticImports)
    (context : Context) (everywhere : OrderedSet String) :
    lineHitter.complaints context everywhere (c.rescoped rescope)
      = lineHitter.complaints context everywhere c := by
  simp only [complaints, lineHitter, TestClass.rescoped, List.flatMap_map]
  refine List.flatMap_congr fun k hk => ?_
  have hassertions : List.Forall₂ Assertion.SameVerdict
      { k with scope := rescope k }.assertions k.assertions :=
    TestCase.assertions_sameVerdict rfl rfl (himports k hk)
  -- The rule looks at the flag and at the line of an assertion.
  have hhitters : List.Forall₂ Assertion.SameVerdict
      ({ k with scope := rescope k }.assertions.filter (·.isLineHitter))
      (k.assertions.filter (·.isLineHitter)) :=
    List.rel_filter (fun a b hab => iff_of_eq (congrArg (· = true) hab.isLineHitter)) hassertions
  congr 2
  rw [← List.forall₂_eq_eq_eq]
  refine List.rel_map (fun a b hab => ?_) hhitters
  simp only [hab.line]

/-- **Constants influence explanations only.** Under the same static imports a call is an assertion
for both scopes or for neither, and the two assertions differ at most in their explanations. So the
rule about assertions that cannot fail says the same of a class whatever constants its cases
know. -/
theorem constants_only_explain :
    (∀ scope scope' : Scope, scope.staticImports = scope'.staticImports → ∀ call,
      Option.Rel Assertion.SameVerdict (Assertion.recognize? scope call)
        (Assertion.recognize? scope' call))
    ∧ ∀ (context : Context) (everywhere : OrderedSet String) (c : TestClass)
        (rescope : TestCase → Scope),
        (∀ k ∈ c.cases, (rescope k).staticImports = k.scope.staticImports) →
        Rule.lineHitter.complaints context everywhere (c.rescoped rescope)
          = Rule.lineHitter.complaints context everywhere c := by
  constructor
  · intro scope scope' himports call
    exact Assertion.recognize?_sameVerdict himports call
  · intro context everywhere c rescope himports
    exact Rule.lineHitter_rescoped himports context everywhere

/-- A scope in which a name is a text. -/
def Scope.withReason : Scope := { constants := [("WHY", .str "is payable")] }

/-- A check of a condition. The constant tells whether the first argument is its reason. -/
def Invocation.payable : Invocation :=
  { receiver := .named "MatcherAssert", method := "assertThat", line := 4
    args := [.name "WHY", .call (.named "cart") "payable" [] 4] }

/-- A check that cannot fail. -/
def Invocation.bound : Invocation :=
  { receiver := .named "MatcherAssert", method := "assertThat", line := 5
    args := [.name "WHY", .bool true] }

/-- A class with both checks, in which the name is a text. -/
def TestClass.payable : TestClass :=
  TestClass.fake.withCases [(TestCase.named "pays").withBody [.payable, .bound] .withReason]

/-- The constant decides whether the check has an explanation, and nothing else. -/
theorem constants_only_explain_payable :
    Scope.withReason.staticImports = ({} : Scope).staticImports
    ∧ (Assertion.recognize? .withReason .payable).bind (·.explanation) = some "is payable"
    ∧ (Assertion.recognize? {} .payable).bind (·.explanation) = none
    ∧ Option.Rel Assertion.SameVerdict (Assertion.recognize? .withReason .payable)
        (Assertion.recognize? {} .payable)
    ∧ (∀ k ∈ TestClass.payable.cases, ({} : Scope).staticImports = k.scope.staticImports)
    ∧ Rule.lineHitter.complaints (Context.new (.error "no model") []) ∅
          (TestClass.payable.rescoped fun _ => {})
        = Rule.lineHitter.complaints (Context.new (.error "no model") []) ∅ .payable := by
  have himports : ∀ k ∈ TestClass.payable.cases,
      ({} : Scope).staticImports = k.scope.staticImports := by
    intro k hk
    obtain rfl := List.mem_singleton.mp hk
    rfl
  obtain ⟨hverdict, hrule⟩ := constants_only_explain
  exact ⟨rfl, by decide, by decide, hverdict .withReason {} rfl .payable, himports,
    hrule _ _ _ _ himports⟩

end SuiteLint
