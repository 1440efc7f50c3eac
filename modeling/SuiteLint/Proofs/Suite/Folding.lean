import Mathlib.Logic.Function.Iterate
import Mathlib.Logic.Relation
import SuiteLint.Proofs.Text.Split
import SuiteLint.Suite.Scope

/-!
# What folding computes

Folding counts down levels while it looks constants up, so neither the shape of an expression nor
that of the table of constants bounds it. Here the value of an expression is said by rules instead:
a `Derivation` is a proof tree that an expression has a value, and its height is the number of steps
on its longest path. `fold` gives exactly the values that have a derivation of height at most 8
(`Scope.fold_eq_some_iff_derivation`).

`Scope.Needs` relates an expression to those that its value is taken from. Along it derivations get
strictly lower (`Derivation.exists_of_needs`), so an expression that leads into a cycle of constants
has no derivation of any height (`Derivation.false_of_cycle`).
-/

namespace SuiteLint

/-! ## Rules -/

/-- A constant as it may be written: alone, or behind the name of the class or `this`. -/
inductive Scope.RefersTo (scope : Scope) : String → String → Prop
  | unqualified {field : String} (hfield : '.' ∉ field.toList) : scope.RefersTo field field
  | qualified {owner field : String} (howner : owner = scope.className ∨ owner = "this")
      (hfield : '.' ∉ field.toList) : scope.RefersTo (owner ++ "." ++ field) field

/-- A name stands for a constant with a value. -/
def Scope.HasConstant (scope : Scope) (name : String) (value : Expr) : Prop :=
  ∃ field, scope.RefersTo name field ∧ KeyedList.get? field scope.constants = some value

/-- The last segment of a dotted name is `String`. -/
def NamesString (name : String) : Prop :=
  name = "String" ∨ ∃ qualifier, name = qualifier ++ "." ++ "String"

mutual

/-- A proof that an expression has a value. -/
inductive Derivation (scope : Scope) : Expr → String → Type
  | str (value : String) : Derivation scope (.str value) value
  | boolTrue : Derivation scope (.bool true) "true"
  | boolFalse : Derivation scope (.bool false) "false"
  | number (text : String) : Derivation scope (.number text) text
  | name {text s : String} {value : Expr} (hvalue : scope.HasConstant text value)
      (d : Derivation scope value s) : Derivation scope (.name text) s
  | lambda {result : Expr} {s : String} (d : Derivation scope result s) :
      Derivation scope (.lambda result) s
  | format {receiver s : String} {first : Expr} {rest : List Expr} {line : Nat}
      (hreceiver : NamesString receiver) (d : Derivation scope first s) :
      Derivation scope (.call (.named receiver) "format" (first :: rest) line) s
  | concat {parts : List Expr} {values : List String} (ds : Derivations scope parts values) :
      Derivation scope (.concat parts) (String.join values)

/-- Proofs that expressions have values, one after the other. -/
inductive Derivations (scope : Scope) : List Expr → List String → Type
  | nil : Derivations scope [] []
  | cons {e : Expr} {s : String} {parts : List Expr} {values : List String}
      (d : Derivation scope e s) (ds : Derivations scope parts values) :
      Derivations scope (e :: parts) (s :: values)

end

mutual

/-- The number of steps on the longest path from the expression to a leaf. -/
def Derivation.height {scope : Scope} {e : Expr} {s : String} : Derivation scope e s → Nat
  | .str _ | .boolTrue | .boolFalse | .number _ => 0
  | .name _ d | .lambda d | .format _ d => d.height + 1
  | .concat ds => ds.height

/-- The number of steps on the longest path from the chain of the parts to a leaf. -/
def Derivations.height {scope : Scope} {parts : List Expr} {values : List String} :
    Derivations scope parts values → Nat
  | .nil => 0
  | .cons d ds => max (d.height + 1) ds.height

end

/-- The value of an expression is taken from that of another one. -/
inductive Scope.Needs (scope : Scope) : Expr → Expr → Prop
  | name {text : String} {value : Expr} (hvalue : scope.HasConstant text value) :
      scope.Needs (.name text) value
  | lambda {result : Expr} : scope.Needs (.lambda result) result
  | format {receiver : String} {first : Expr} {rest : List Expr} {line : Nat}
      (hreceiver : NamesString receiver) :
      scope.Needs (.call (.named receiver) "format" (first :: rest) line) first
  | concat {parts : List Expr} {part : Expr} (hpart : part ∈ parts) :
      scope.Needs (.concat parts) part

variable {scope : Scope}

/-! ## Names and calls -/

theorem Scope.resolve_eq_some_iff {text : String} {value : Expr} :
    scope.resolve text = some value ↔ scope.HasConstant text value := by
  constructor
  · intro hresolve
    unfold resolve at hresolve
    split at hresolve
    · rename_i owner field hcut
      obtain ⟨rfl, hfield⟩ := Text.splitLast?_eq_some_iff.mp hcut
      split at hresolve
      · rename_i howner
        rw [Bool.or_eq_true, beq_iff_eq, beq_iff_eq] at howner
        exact ⟨field, .qualified howner hfield, hresolve⟩
      · cases hresolve
    · rename_i hcut
      exact ⟨text, .unqualified (Text.splitLast?_eq_none_iff.mp hcut), hresolve⟩
  · rintro ⟨field, hrefers, hvalue⟩
    cases hrefers with
    | unqualified hfield =>
        rw [resolve, Text.splitLast?_eq_none_iff.mpr hfield]
        exact hvalue
    | @qualified owner _ howner hfield =>
        have hcut : Text.splitLast? '.' (owner ++ "." ++ field) = some (owner, field) :=
          Text.splitLast?_append hfield
        have hscope : (owner == scope.className || owner == "this") = true := by
          rwa [Bool.or_eq_true, beq_iff_eq, beq_iff_eq]
        simp only [resolve, hcut, hscope, if_true]
        exact hvalue

theorem Scope.HasConstant.unique {text : String} {value value' : Expr}
    (h : scope.HasConstant text value) (h' : scope.HasConstant text value') : value = value' := by
  rw [← resolve_eq_some_iff] at h h'
  exact Option.some.inj (h.symm.trans h')

theorem Scope.isStringFormat_iff {receiver : Receiver} {method : String} :
    isStringFormat receiver method = true ↔
      method = "format" ∧ ∃ name, receiver = .named name ∧ NamesString name := by
  rw [isStringFormat, Bool.and_eq_true, beq_iff_eq, beq_iff_eq]
  refine and_congr_right fun _ => ?_
  cases receiver with
  | unqualified | computed => simp [Receiver.simpleName?]
  | named name =>
      simp [Receiver.simpleName?, Text.simpleName_eq_iff, NamesString]

/-! ## Folding and derivations -/

/-- Parts fold one by one just as a list of derivations is put together. -/
theorem mapM_foldWithin_eq_some_iff {n : Nat}
    (hfold : ∀ e s, scope.foldWithin n e = some s ↔ ∃ d : Derivation scope e s, d.height < n)
    {parts : List Expr} {values : List String} :
    parts.mapM (scope.foldWithin n) = some values ↔
      ∃ ds : Derivations scope parts values, ds.height ≤ n := by
  induction parts generalizing values with
  | nil =>
      constructor
      · rintro ⟨⟩
        exact ⟨.nil, Nat.zero_le n⟩
      · rintro ⟨⟨⟩, -⟩
        rfl
  | cons e parts ih =>
      simp only [List.mapM_cons, Option.bind_eq_bind, Option.bind_eq_some_iff, Option.pure_def,
        Option.some.injEq, hfold, ih]
      constructor
      · rintro ⟨s, ⟨d, hd⟩, rest, ⟨ds, hds⟩, rfl⟩
        exact ⟨.cons d ds, Nat.max_le.mpr ⟨hd, hds⟩⟩
      · rintro ⟨ds, hheight⟩
        cases ds with
        | cons d ds =>
            obtain ⟨hd, hds⟩ := Nat.max_le.mp hheight
            exact ⟨_, ⟨d, hd⟩, _, ⟨ds, hds⟩, rfl⟩

/-- Folding within some levels finds the values with a derivation that is lower than that. -/
theorem foldWithin_eq_some_iff {n : Nat} {e : Expr} {s : String} :
    scope.foldWithin n e = some s ↔ ∃ d : Derivation scope e s, d.height < n := by
  induction n generalizing e s with
  | zero => simp [Scope.foldWithin]
  | succ n ih =>
      cases e with
      | str value =>
          simp only [Scope.foldWithin, Option.some.injEq]
          constructor
          · rintro rfl
            exact ⟨.str _, Nat.succ_pos n⟩
          · rintro ⟨⟨⟩, -⟩
            rfl
      | bool value =>
          constructor
          · intro hvalue
            cases value <;> cases hvalue
            · exact ⟨.boolFalse, Nat.succ_pos n⟩
            · exact ⟨.boolTrue, Nat.succ_pos n⟩
          · rintro ⟨⟨⟩, -⟩ <;> rfl
      | number text =>
          simp only [Scope.foldWithin, Option.some.injEq]
          constructor
          · rintro rfl
            exact ⟨.number _, Nat.succ_pos n⟩
          · rintro ⟨⟨⟩, -⟩
            rfl
      | name text =>
          constructor
          · intro hfold
            cases hvalue : scope.resolve text with
            | none => simp [Scope.foldWithin, hvalue] at hfold
            | some value =>
                simp only [Scope.foldWithin, hvalue] at hfold
                obtain ⟨d, hd⟩ := ih.mp hfold
                exact ⟨.name (Scope.resolve_eq_some_iff.mp hvalue) d, Nat.succ_lt_succ hd⟩
          · rintro ⟨d, hd⟩
            cases d with
            | name hvalue d =>
                simp only [Scope.foldWithin, Scope.resolve_eq_some_iff.mpr hvalue]
                exact ih.mpr ⟨d, Nat.lt_of_succ_lt_succ hd⟩
      | lambda result =>
          simp only [Scope.foldWithin, ih]
          constructor
          · rintro ⟨d, hd⟩
            exact ⟨.lambda d, Nat.succ_lt_succ hd⟩
          · rintro ⟨d, hd⟩
            cases d with
            | lambda d => exact ⟨d, Nat.lt_of_succ_lt_succ hd⟩
      | call receiver method args line =>
          constructor
          · intro hfold
            cases args with
            | nil => cases hfold
            | cons first rest =>
                simp only [Scope.foldWithin] at hfold
                split at hfold
                · rename_i hformat
                  obtain ⟨rfl, name, rfl, hname⟩ := Scope.isStringFormat_iff.mp hformat
                  obtain ⟨d, hd⟩ := ih.mp hfold
                  exact ⟨.format hname d, Nat.succ_lt_succ hd⟩
                · cases hfold
          · rintro ⟨d, hd⟩
            cases d with
            | format hname d =>
                have hformat := Scope.isStringFormat_iff.mpr ⟨rfl, _, rfl, hname⟩
                simp only [Scope.foldWithin, hformat, if_true]
                exact ih.mpr ⟨d, Nat.lt_of_succ_lt_succ hd⟩
      | concat parts =>
          simp only [Scope.foldWithin, Option.map_eq_some_iff,
            mapM_foldWithin_eq_some_iff fun _ _ => ih]
          constructor
          · rintro ⟨values, ⟨ds, hds⟩, rfl⟩
            exact ⟨.concat ds, Nat.lt_succ_of_le hds⟩
          · rintro ⟨d, hd⟩
            cases d with
            | concat ds => exact ⟨_, ⟨ds, Nat.le_of_lt_succ hd⟩, rfl⟩
      | null | procedure | creation | other =>
          simp only [Scope.foldWithin, reduceCtorEq, false_iff]
          rintro ⟨⟨⟩, -⟩

/-! ## Cycles of constants -/

namespace Derivation

theorem exists_of_mem_parts {parts : List Expr} {values : List String}
    (ds : Derivations scope parts values) {part : Expr} (hpart : part ∈ parts) :
    ∃ s, ∃ d : Derivation scope part s, d.height < ds.height := by
  induction parts generalizing values with
  | nil => cases hpart
  | cons e parts ih =>
      cases ds with
      | @cons _ s _ _ d ds =>
          rcases List.mem_cons.mp hpart with rfl | hpart
          · exact ⟨s, d, Nat.le_max_left ..⟩
          · obtain ⟨s', d', hd'⟩ := ih ds hpart
            exact ⟨s', d', Nat.lt_of_lt_of_le hd' (Nat.le_max_right ..)⟩

variable {e e' : Expr} {s : String}

/-- What the value of an expression is taken from has a lower derivation. -/
theorem exists_of_needs (d : Derivation scope e s) (h : scope.Needs e e') :
    ∃ s', ∃ d' : Derivation scope e' s', d'.height < d.height := by
  cases h with
  | name hvalue =>
      cases d with
      | name hvalue' d =>
          obtain rfl := hvalue'.unique hvalue
          exact ⟨s, d, Nat.lt_succ_self _⟩
  | lambda =>
      cases d with
      | lambda d => exact ⟨s, d, Nat.lt_succ_self _⟩
  | format hreceiver =>
      cases d with
      | format _ d => exact ⟨s, d, Nat.lt_succ_self _⟩
  | concat hpart =>
      cases d with
      | concat ds => exact exists_of_mem_parts ds hpart

theorem exists_of_transGen (d : Derivation scope e s) (h : Relation.TransGen scope.Needs e e') :
    ∃ s', ∃ d' : Derivation scope e' s', d'.height < d.height := by
  induction h with
  | single h => exact d.exists_of_needs h
  | tail _ h ih =>
      obtain ⟨s₁, d₁, hd₁⟩ := ih
      obtain ⟨s₂, d₂, hd₂⟩ := d₁.exists_of_needs h
      exact ⟨s₂, d₂, hd₂.trans hd₁⟩

/-- An expression that needs itself has no value: each derivation would have a lower one inside. -/
theorem false_of_cycle (h : Relation.TransGen scope.Needs e e) (d : Derivation scope e s) :
    False := by
  induction hheight : d.height using Nat.strong_induction_on generalizing s with
  | _ n ih =>
      obtain ⟨s', d', hd'⟩ := d.exists_of_transGen h
      exact ih d'.height (hheight ▸ hd') d' rfl

/-- Nor has an expression whose value is taken from one that needs itself. -/
theorem false_of_needs_cycle (hreach : Relation.ReflTransGen scope.Needs e e')
    (hcycle : Relation.TransGen scope.Needs e' e') (d : Derivation scope e s) : False := by
  rcases Relation.reflTransGen_iff_eq_or_transGen.mp hreach with rfl | hreach
  · exact d.false_of_cycle hcycle
  · obtain ⟨s', d', -⟩ := d.exists_of_transGen hreach
    exact d'.false_of_cycle hcycle

/-- Each lambda is a step. -/
theorem exists_of_iterate_lambda {n : Nat} (d : Derivation scope (Expr.lambda^[n] e) s) :
    ∃ d' : Derivation scope e s, d.height = d'.height + n := by
  induction n generalizing e with
  | zero => exact ⟨d, rfl⟩
  | succ n ih =>
      obtain ⟨d', hd'⟩ := ih d
      cases d' with
      | lambda d' =>
          refine ⟨d', hd'.trans ?_⟩
          rw [height]
          omega

end Derivation

/-! ## Folding -/

/-- **Folding gives the values that have a derivation of at most eight steps to each leaf**, and
nothing for any other expression, among them all whose evaluation runs into a cycle of constants. -/
theorem Scope.fold_eq_some_iff_derivation (scope : Scope) (e : Expr) :
    (∀ s, scope.fold e = some s ↔ ∃ d : Derivation scope e s, d.height ≤ 8)
    ∧ ((∀ s, ∀ d : Derivation scope e s, 8 < d.height) → scope.fold e = none)
    ∧ ∀ e', Relation.ReflTransGen scope.Needs e e' → Relation.TransGen scope.Needs e' e' →
        scope.fold e = none := by
  have hfold : ∀ s, scope.fold e = some s ↔ ∃ d : Derivation scope e s, d.height ≤ 8 := by
    intro s
    rw [fold, foldWithin_eq_some_iff]
    simp only [maxFoldDepth, Nat.lt_succ_iff]
  have hnone : (∀ s, ∀ d : Derivation scope e s, 8 < d.height) → scope.fold e = none := by
    intro hhigh
    refine Option.eq_none_iff_forall_ne_some.mpr fun s hs => ?_
    obtain ⟨d, hd⟩ := (hfold s).mp hs
    exact Nat.not_lt.mpr hd (hhigh s d)
  refine ⟨hfold, hnone, fun e' hreach hcycle => hnone fun s d => ?_⟩
  exact (d.false_of_needs_cycle hreach hcycle).elim

/-- A class whose two constants are made of each other. -/
def Scope.entangled : Scope where
  className := "Codes"
  constants := [("A", .concat [.str "x", .name "this.B"]), ("B", .name "Codes.A")]

/-- A constant that leads into a cycle, and a text behind nine lambdas. -/
theorem Scope.fold_eq_some_iff_derivation_entangled :
    (Relation.ReflTransGen entangled.Needs (.lambda (.name "A"))
        (.concat [.str "x", .name "this.B"])
      ∧ Relation.TransGen entangled.Needs (.concat [.str "x", .name "this.B"])
        (.concat [.str "x", .name "this.B"])
      ∧ entangled.fold (.lambda (.name "A")) = none)
    ∧ (∀ s, ∀ d : Derivation entangled (Expr.lambda^[9] (.str "x")) s, 8 < d.height)
      ∧ entangled.fold (Expr.lambda^[9] (.str "x")) = none := by
  have hA : entangled.Needs (.name "A") (.concat [.str "x", .name "this.B"]) :=
    .name (resolve_eq_some_iff.mp rfl)
  have hB : entangled.Needs (.name "this.B") (.name "Codes.A") :=
    .name (resolve_eq_some_iff.mp rfl)
  have hA' : entangled.Needs (.name "Codes.A") (.concat [.str "x", .name "this.B"]) :=
    .name (resolve_eq_some_iff.mp rfl)
  have hreach : Relation.ReflTransGen entangled.Needs (.lambda (.name "A"))
      (.concat [.str "x", .name "this.B"]) := .head .lambda (.single hA)
  have hcycle : Relation.TransGen entangled.Needs (.concat [.str "x", .name "this.B"])
      (.concat [.str "x", .name "this.B"]) :=
    .head (.concat (by simp)) (.head hB (.single hA'))
  have hhigh : ∀ s, ∀ d : Derivation entangled (Expr.lambda^[9] (.str "x")) s, 8 < d.height := by
    intro s d
    obtain ⟨d', hd'⟩ := d.exists_of_iterate_lambda
    omega
  exact ⟨⟨hreach, hcycle, (fold_eq_some_iff_derivation _ _).2.2 _ hreach hcycle⟩, hhigh,
    (fold_eq_some_iff_derivation _ _).2.1 hhigh⟩

end SuiteLint
