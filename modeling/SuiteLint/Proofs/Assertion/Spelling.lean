import Mathlib.Data.List.Basic
import SuiteLint.Assertion.Recognition
import SuiteLint.Proofs.Text.Split

/-!
# How assertions are written

The method of a call decides which of the two families it may belong to (`Declares`), and no method
is in both. Within its family a call is recognized by the way in which it is addressed (`Spells`):
by the type that declares the method, under any qualified name of that type, or by a static import.
What is then read off the call depends on its arguments and on the constants in scope, but neither
on the receiver nor on the imports, so all spellings of a call are the same assertion
(`recognize?_eq`). More imports add spellings and take none away.
-/

namespace SuiteLint

/-! ## Scopes with the same constants -/

/-- Two scopes in which every name has the same value. -/
structure Scope.SameConstants (scope scope' : Scope) : Prop where
  className : scope.className = scope'.className
  constants : ∀ field,
    KeyedList.get? field scope.constants = KeyedList.get? field scope'.constants

namespace Scope.SameConstants

variable {scope scope' : Scope}

theorem resolve (h : scope.SameConstants scope') (name : String) :
    scope.resolve name = scope'.resolve name := by
  unfold Scope.resolve
  split
  · rw [h.className, h.constants]
  · exact h.constants name

theorem foldWithin (h : scope.SameConstants scope') (n : Nat) :
    scope.foldWithin n = scope'.foldWithin n := by
  induction n with
  | zero => rfl
  | succ n ih =>
      funext e
      cases e with
      | name text => simp only [Scope.foldWithin, h.resolve, ih]
      | call receiver method args line =>
          cases args <;> simp only [Scope.foldWithin, ih]
      | lambda result => simp only [Scope.foldWithin, ih]
      | concat parts => simp only [Scope.foldWithin, ih]
      | str | bool | number | null | procedure | creation | other => rfl

theorem explain (h : scope.SameConstants scope') :
    Assertion.explain scope = Assertion.explain scope' := by
  funext message
  rw [Assertion.explain, Assertion.explain, Scope.fold, Scope.fold, h.foldWithin]

end Scope.SameConstants

/-- A call as it is made on a type. -/
def Invocation.on (call : Invocation) (type : String) : Invocation :=
  { call with receiver := .named type }

namespace Assertion

variable {scope scope' : Scope} {owner method : String} {receiver : Receiver} {call : Invocation}

/-! ## Families -/

/-- A type declares a method that asserts. -/
inductive Declares : String → String → Prop
  | junit {method : String} {arity : Nat} (harity : JUnit.arity? method = some arity) :
      Declares JUnit.owner method
  | hamcrest {method : String} (hmethod : method = Hamcrest.method) :
      Declares Hamcrest.owner method

theorem arity?_hamcrest : JUnit.arity? Hamcrest.method = none := by decide

theorem method_ne_of_arity? {arity : Nat} (harity : JUnit.arity? method = some arity) :
    method ≠ Hamcrest.method := by
  rintro rfl
  rw [arity?_hamcrest] at harity
  cases harity

theorem mem_of_arity?_eq_some {arity : Nat} (h : JUnit.arity? method = some arity) :
    method ∈ JUnit.unaryMethods ++ JUnit.binaryMethods ++ ["fail", "assertAll"] := by
  unfold JUnit.arity? at h
  split at h
  · rename_i hunary
    simp only [List.mem_append]
    exact Or.inl (Or.inl (List.contains_iff_mem.mp hunary))
  · split at h
    · rename_i hbinary
      simp only [List.mem_append]
      exact Or.inl (Or.inr (List.contains_iff_mem.mp hbinary))
    · split at h
      · rename_i hother
        rw [Bool.or_eq_true, beq_iff_eq, beq_iff_eq] at hother
        simp only [List.mem_append, List.mem_cons]
        exact Or.inr (hother.imp_right Or.inl)
      · cases h

/-- Neither a method that asserts nor the type that declares it has a dot in its name. -/
theorem Declares.not_dotted (h : Declares owner method) :
    '.' ∉ owner.toList ∧ '.' ∉ method.toList := by
  cases h with
  | junit harity =>
      have hnames : ∀ m ∈ JUnit.unaryMethods ++ JUnit.binaryMethods ++ ["fail", "assertAll"],
          '.' ∉ m.toList := by decide
      exact ⟨by decide, hnames method (mem_of_arity?_eq_some harity)⟩
  | hamcrest hmethod =>
      subst hmethod
      decide

/-! ## Spellings -/

/-- The last segment of a dotted name. -/
def EndsIn (name segment : String) : Prop :=
  name = segment ∨ ∃ qualifier, name = qualifier ++ "." ++ segment

/-- The ways in which a static method of a type can be addressed: on the type, which may be
qualified, or without a receiver under an import of the method or of all methods of the type. -/
inductive Spells (owner method : String) (imports : List String) : Receiver → Prop
  | qualified {name : String} (hname : EndsIn name owner) :
      Spells owner method imports (.named name)
  | imported {type member : String} (htype : EndsIn type owner)
      (hmember : member = method ∨ member = "*") (himport : type ++ "." ++ member ∈ imports) :
      Spells owner method imports .unqualified

theorem Spells.mono {imports imports' : List String} (h : Spells owner method imports receiver)
    (himports : imports ⊆ imports') : Spells owner method imports' receiver := by
  cases h with
  | qualified hname => exact .qualified hname
  | imported htype hmember himport => exact .imported htype hmember (himports himport)

theorem importCovers_iff (howner : '.' ∉ owner.toList) (hmethod : '.' ∉ method.toList)
    {path : String} :
    Scope.importCovers owner method path = true ↔
      ∃ type member, path = type ++ "." ++ member ∧ EndsIn type owner
        ∧ (member = method ∨ member = "*") := by
  constructor
  · intro hcovers
    unfold Scope.importCovers at hcovers
    split at hcovers
    · rename_i type member hcut
      obtain ⟨hpath, -⟩ := Text.splitLast?_eq_some_iff.mp hcut
      rw [Bool.and_eq_true, Bool.or_eq_true, beq_iff_eq, beq_iff_eq, beq_iff_eq] at hcovers
      obtain ⟨hsimple, hmember⟩ := hcovers
      exact ⟨type, member, hpath, (Text.simpleName_eq_iff.mp hsimple).2, hmember.symm⟩
    · cases hcovers
  · rintro ⟨type, member, rfl, htype, hmember⟩
    have hdot : '.' ∉ member.toList := by
      rcases hmember with rfl | rfl
      · exact hmethod
      · decide
    have hcut : Text.splitLast? '.' (type ++ "." ++ member) = some (type, member) :=
      Text.splitLast?_append hdot
    have hsimple : Text.simpleName type = owner := Text.simpleName_eq_iff.mpr ⟨howner, htype⟩
    simp only [Scope.importCovers, hcut, hsimple, beq_self_eq_true, Bool.true_and,
      Bool.or_eq_true, beq_iff_eq]
    exact hmember.symm

/-- The test for the receiver of a call is met by the spellings and by nothing else. -/
theorem isCalledOn_iff_spells (h : Declares owner call.method) :
    isCalledOn scope owner call = true ↔
      Spells owner call.method scope.staticImports call.receiver := by
  obtain ⟨howner, hmethod⟩ := h.not_dotted
  obtain ⟨receiver, method, args, line⟩ := call
  cases receiver with
  | named name =>
      simp only [isCalledOn, beq_iff_eq, Text.simpleName_eq_iff]
      constructor
      · rintro ⟨-, hname⟩
        exact .qualified hname
      · rintro ⟨hname⟩
        exact ⟨howner, hname⟩
  | unqualified =>
      simp only [isCalledOn, Scope.importsStatically, List.any_eq_true,
        importCovers_iff howner hmethod]
      constructor
      · rintro ⟨_, himport, type, member, rfl, htype, hmember⟩
        exact .imported htype hmember himport
      · rintro ⟨⟩
        rename_i type member htype hmember himport
        exact ⟨_, himport, type, member, rfl, htype, hmember⟩
  | computed =>
      simp only [isCalledOn, Bool.false_eq_true, false_iff]
      rintro ⟨⟩

/-! ## Recognition -/

theorem isCalledOn_on (h : '.' ∉ owner.toList) : isCalledOn scope owner (call.on owner) = true := by
  have hsimple : Text.simpleName owner = owner := Text.simpleName_eq_iff.mpr ⟨h, Or.inl rfl⟩
  simp only [isCalledOn, Invocation.on, hsimple, beq_self_eq_true]

theorem JUnit.recognize?_eq (scope : Scope) (call : Invocation) :
    JUnit.recognize? scope call =
      if isCalledOn scope JUnit.owner call then JUnit.recognize? scope (call.on JUnit.owner)
      else none := by
  have hon : isCalledOn scope JUnit.owner (call.on JUnit.owner) = true := isCalledOn_on (by decide)
  rw [JUnit.recognize?, JUnit.recognize?, hon]
  simp only [Invocation.on, if_true]
  cases JUnit.arity? call.method with
  | none => simp only [ite_self]
  | some arity => rfl

theorem Hamcrest.recognize?_eq (scope : Scope) (call : Invocation) :
    Hamcrest.recognize? scope call =
      if isCalledOn scope Hamcrest.owner call then
        Hamcrest.recognize? scope (call.on Hamcrest.owner)
      else none := by
  have hon : isCalledOn scope Hamcrest.owner (call.on Hamcrest.owner) = true :=
    isCalledOn_on (by decide)
  rw [Hamcrest.recognize?, Hamcrest.recognize?, hon]
  cases isCalledOn scope Hamcrest.owner call with
  | true => rfl
  | false => rw [Bool.and_false]; rfl

/-- A method of the one family is left alone by the other. -/
theorem recognize?_of_arity {arity : Nat} (harity : JUnit.arity? call.method = some arity) :
    recognize? scope call = JUnit.recognize? scope call := by
  have hmethod : (call.method == Hamcrest.method) = false :=
    beq_eq_false_iff_ne.mpr (method_ne_of_arity? harity)
  rw [recognize?, Hamcrest.recognize?, hmethod]
  exact Option.or_none

theorem recognize?_of_method (hmethod : call.method = Hamcrest.method) :
    recognize? scope call = Hamcrest.recognize? scope call := by
  rw [recognize?, JUnit.recognize?, hmethod, arity?_hamcrest]
  rfl

/-- A call that is spelled in one of the ways counts as if it were made on the type itself. -/
theorem recognize?_eq (h : Declares owner call.method) :
    recognize? scope call =
      if isCalledOn scope owner call then recognize? scope (call.on owner) else none := by
  cases h with
  | junit harity =>
      have hon : recognize? scope (call.on JUnit.owner)
          = JUnit.recognize? scope (call.on JUnit.owner) := recognize?_of_arity harity
      rw [recognize?_of_arity harity, JUnit.recognize?_eq, hon]
  | hamcrest hmethod =>
      have hon : recognize? scope (call.on Hamcrest.owner)
          = Hamcrest.recognize? scope (call.on Hamcrest.owner) := recognize?_of_method hmethod
      rw [recognize?_of_method hmethod, Hamcrest.recognize?_eq, hon]

/-- The arguments and the constants decide the rest. -/
theorem recognize?_congr (h : scope.SameConstants scope')
    (hcalled : ∀ owner, isCalledOn scope owner call = isCalledOn scope' owner call) :
    recognize? scope call = recognize? scope' call := by
  have hdelta : JUnit.isDelta scope = JUnit.isDelta scope' := by
    funext e
    cases e <;> simp only [JUnit.isDelta, h.resolve]
  have htext : Hamcrest.isText scope = Hamcrest.isText scope' := by
    funext e
    cases e <;> simp only [Hamcrest.isText, h.resolve]
  have hmessage : JUnit.message? scope = JUnit.message? scope' := by
    funext arity method args
    rw [JUnit.message?, JUnit.message?, JUnit.trailingMessage?, JUnit.trailingMessage?, hdelta]
  have hread : Hamcrest.read? scope = Hamcrest.read? scope' := by
    funext args
    simp only [Hamcrest.read?, htext]
  rw [recognize?, recognize?, JUnit.recognize?, JUnit.recognize?, Hamcrest.recognize?,
    Hamcrest.recognize?, hcalled, hcalled, hmessage, hread, h.explain]

theorem recognize?_of_spells (hdeclares : Declares owner call.method)
    (h : Spells owner call.method scope.staticImports call.receiver) :
    recognize? scope call = recognize? scope (call.on owner) := by
  rw [recognize?_eq hdeclares, if_pos ((isCalledOn_iff_spells hdeclares).mpr h)]

theorem recognize?_on_congr (hscope : scope.SameConstants scope') (call : Invocation)
    (owner : String) : recognize? scope (call.on owner) = recognize? scope' (call.on owner) :=
  recognize?_congr hscope fun _ => rfl

theorem isSome_read?_iff {args : List Expr} :
    (Hamcrest.read? scope args).isSome = true ↔ args.length = 2 ∨ args.length = 3 := by
  fun_cases Hamcrest.read? scope args with
  | case5 args hthree _ htwo =>
      simp only [Option.isSome_none, Bool.false_eq_true, List.length_eq_two, List.length_eq_three,
        false_iff, not_or, not_exists]
      exact ⟨htwo, hthree⟩
  | case1 | case2 | case3 | case4 => simp

/-- What is recognized, in terms of the call alone. -/
theorem isSome_recognize?_iff :
    (recognize? scope call).isSome = true ↔
      ∃ owner, Declares owner call.method
        ∧ Spells owner call.method scope.staticImports call.receiver
        ∧ (owner = JUnit.owner ∨ call.args.length = 2 ∨ call.args.length = 3) := by
  constructor
  · intro hsome
    cases harity : JUnit.arity? call.method with
    | some arity =>
        have hcalled : isCalledOn scope JUnit.owner call = true := by
          by_contra hnot
          rw [recognize?_of_arity harity, JUnit.recognize?_eq, if_neg hnot] at hsome
          cases hsome
        exact ⟨_, .junit harity, (isCalledOn_iff_spells (.junit harity)).mp hcalled, Or.inl rfl⟩
    | none =>
        rw [recognize?, JUnit.recognize?, harity, Option.none_or, Hamcrest.recognize?] at hsome
        split at hsome
        · rename_i hcalled
          rw [Bool.and_eq_true, beq_iff_eq] at hcalled
          rw [Option.isSome_map, isSome_read?_iff] at hsome
          have hdeclares : Declares Hamcrest.owner call.method := .hamcrest hcalled.1
          exact ⟨_, hdeclares, (isCalledOn_iff_spells hdeclares).mp hcalled.2, Or.inr hsome⟩
        · cases hsome
  · rintro ⟨owner, hdeclares, hspells, hargs⟩
    have hcalled := (isCalledOn_iff_spells hdeclares).mpr hspells
    cases hdeclares with
    | junit harity =>
        rw [recognize?_of_arity harity, JUnit.recognize?, harity]
        simp only [hcalled, if_true, Option.isSome_some]
    | hamcrest hmethod =>
        have hlength := hargs.resolve_left (by decide)
        rw [recognize?_of_method hmethod, Hamcrest.recognize?, hmethod, hcalled]
        simpa [isSome_read?_iff] using hlength

theorem extract_sublist
    (h : ∀ call a, recognize? scope call = some a → recognize? scope' call = some a)
    (calls : List Invocation) : (extract scope calls).Sublist (extract scope' calls) := by
  induction calls with
  | nil => exact .slnil
  | cons call calls ih =>
      rw [extract, extract, List.filterMap_cons, List.filterMap_cons]
      cases hcall : recognize? scope call with
      | some a =>
          rw [h call a hcall]
          exact ih.cons_cons a
      | none =>
          cases recognize? scope' call with
          | none => exact ih
          | some a => exact ih.cons a

/-- **Every spelling of an assertion is the same assertion, and imports only add assertions.** A
call is recognized if it is spelled in one of the ways, with as many arguments as its method takes.
The spelling does not show in what is recognized, and neither does the rest of the imports. Under
more imports a call is still the same assertion, so the assertions of a method body are among those
that it has then, in the same order. -/
theorem spelling_invariance :
    (∀ (scope : Scope) (call : Invocation), (recognize? scope call).isSome = true ↔
      ∃ owner, Declares owner call.method
        ∧ Spells owner call.method scope.staticImports call.receiver
        ∧ (owner = JUnit.owner ∨ call.args.length = 2 ∨ call.args.length = 3))
    ∧ (∀ (owner method : String), Declares owner method →
      ∀ (args : List Expr) (line : Nat) (scope scope' : Scope), scope.SameConstants scope' →
      ∀ receiver receiver' : Receiver, Spells owner method scope.staticImports receiver →
        Spells owner method scope'.staticImports receiver' →
        recognize? scope ⟨receiver, method, args, line⟩
          = recognize? scope' ⟨receiver', method, args, line⟩)
    ∧ ∀ scope scope' : Scope, scope.SameConstants scope' →
        scope.staticImports ⊆ scope'.staticImports →
        (∀ call a, recognize? scope call = some a → recognize? scope' call = some a)
        ∧ ∀ calls, (extract scope calls).Sublist (extract scope' calls) := by
  refine ⟨fun _ _ => isSome_recognize?_iff, ?_, ?_⟩
  · intro owner method hdeclares args line scope scope' hscope receiver receiver' hspells hspells'
    have hdeclares' : Declares owner (Invocation.mk receiver' method args line).method := hdeclares
    calc recognize? scope ⟨receiver, method, args, line⟩
        = recognize? scope (Invocation.on ⟨receiver, method, args, line⟩ owner) :=
          recognize?_of_spells hdeclares hspells
      _ = recognize? scope' (Invocation.on ⟨receiver, method, args, line⟩ owner) :=
          recognize?_on_congr hscope _ owner
      _ = recognize? scope' ⟨receiver', method, args, line⟩ :=
          (recognize?_of_spells hdeclares' hspells').symm
  · intro scope scope' hscope himports
    have hkeeps : ∀ call a, recognize? scope call = some a → recognize? scope' call = some a := by
      intro call a ha
      obtain ⟨owner, hdeclares, hspells, -⟩ :=
        isSome_recognize?_iff.mp (Option.isSome_of_eq_some ha)
      rw [recognize?_of_spells hdeclares hspells, recognize?_on_congr hscope] at ha
      rwa [recognize?_of_spells hdeclares (hspells.mono himports)]
    exact ⟨hkeeps, extract_sublist hkeeps⟩

/-- A scope with a constant. -/
def cartScope : Scope := { className := "CartTest", constants := [("WHY", .str "sums up")] }

/-- The scope with a wildcard import and one that has nothing to do with assertions. -/
def cartScopeImporting : Scope :=
  { cartScope with staticImports := ["shop.Prices.total", "org.junit.jupiter.api.Assertions.*"] }

/-- A comparison with a constant message is written on the qualified type and under a wildcard
import. -/
theorem spelling_invariance_cart :
    Declares JUnit.owner "assertEquals"
    ∧ cartScope.SameConstants cartScopeImporting
    ∧ Spells JUnit.owner "assertEquals" cartScope.staticImports
        (.named "org.junit.jupiter.api.Assertions")
    ∧ Spells JUnit.owner "assertEquals" cartScopeImporting.staticImports .unqualified
    ∧ recognize? cartScope ⟨.named "org.junit.jupiter.api.Assertions", "assertEquals",
          [.number "3", .name "total", .name "WHY"], 7⟩
        = recognize? cartScopeImporting ⟨.unqualified, "assertEquals",
          [.number "3", .name "total", .name "WHY"], 7⟩
    ∧ recognize? cartScopeImporting ⟨.named "Assertions", "fail", [.name "WHY"], 8⟩
        = some ⟨some "sums up", false, true, "fail", 8⟩
    ∧ (extract cartScope
          [⟨.unqualified, "fail", [], 8⟩, ⟨.named "Assertions", "fail", [], 9⟩]).Sublist
        (extract cartScopeImporting
          [⟨.unqualified, "fail", [], 8⟩, ⟨.named "Assertions", "fail", [], 9⟩]) := by
  have hdeclares : Declares JUnit.owner "assertEquals" :=
    .junit (show JUnit.arity? "assertEquals" = some 2 by decide)
  have hscope : cartScope.SameConstants cartScopeImporting := ⟨rfl, fun _ => rfl⟩
  have hon : Spells JUnit.owner "assertEquals" cartScope.staticImports
      (.named "org.junit.jupiter.api.Assertions") :=
    .qualified (Or.inr ⟨"org.junit.jupiter.api", by decide⟩)
  have himported : Spells JUnit.owner "assertEquals" cartScopeImporting.staticImports
      .unqualified :=
    .imported (Or.inr ⟨"org.junit.jupiter.api", rfl⟩) (Or.inr rfl) (by decide)
  obtain ⟨-, hsame, hmore⟩ := spelling_invariance
  have hmore' := hmore cartScope cartScopeImporting hscope (List.nil_subset _)
  exact ⟨hdeclares, hscope, hon, himported,
    hsame JUnit.owner "assertEquals" hdeclares _ 7 cartScope cartScopeImporting hscope _ _ hon
      himported,
    hmore'.1 _ _ (by decide), hmore'.2 _⟩

end Assertion

end SuiteLint
