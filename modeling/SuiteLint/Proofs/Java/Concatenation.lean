import Mathlib.Data.List.Forall2
import SuiteLint.Java.Grammar.Letters
import SuiteLint.Java.Projection
import SuiteLint.Java.Reader
import SuiteLint.Proofs.Suite.Folding

/-!
# Chains of literals

A text that is put together from literals is read as one list of operands, however its `+` are
nested: parentheses and casts vanish, and an operand that is a chain itself gives its operands to
the chain around it. So no chain has a chain among its operands (`Tree.flat_toExpr`), and folding,
which follows eight steps at most, takes one step to the literals of a chain of any length and
nesting (`fold_of_operands`).

`Tree.Chain` says which trees are chains of literals. `SourceNode.Chain` says the same of the nodes
that trees are read from, where the operands are children in roles.
-/

namespace SuiteLint

/-! ## Chains inside expressions -/

/-- An expression stands somewhere in another one. -/
inductive Expr.Occurs (e : Expr) : Expr → Prop
  | self : e.Occurs e
  | arg {receiver : Receiver} {method : String} {args : List Expr} {line : Nat} {a : Expr}
      (ha : a ∈ args) (h : e.Occurs a) : e.Occurs (.call receiver method args line)
  | result {r : Expr} (h : e.Occurs r) : e.Occurs (.lambda r)
  | part {parts : List Expr} {p : Expr} (hp : p ∈ parts) (h : e.Occurs p) :
      e.Occurs (.concat parts)

/-- Whether an expression is a chain of `+`. -/
def Expr.isConcat : Expr → Bool
  | .concat _ => true
  | _ => false

/-- Every chain in an expression has at least two operands, and none of them is a chain. -/
def Expr.Flat (e : Expr) : Prop :=
  ∀ parts, (Expr.concat parts).Occurs e → 2 ≤ parts.length ∧ ∀ p ∈ parts, p.isConcat = false

namespace Expr

theorem Flat.call {receiver : Receiver} {method : String} {args : List Expr} {line : Nat}
    (h : ∀ a ∈ args, a.Flat) : (Expr.call receiver method args line).Flat := by
  intro parts hoccurs
  cases hoccurs with
  | arg ha hoccurs => exact h _ ha parts hoccurs

theorem Flat.lambda {r : Expr} (h : r.Flat) : (Expr.lambda r).Flat := by
  intro parts hoccurs
  cases hoccurs with
  | result hoccurs => exact h parts hoccurs

theorem Flat.concat {parts : List Expr} (hlength : 2 ≤ parts.length)
    (hparts : ∀ p ∈ parts, p.Flat ∧ p.isConcat = false) : (Expr.concat parts).Flat := by
  intro inner hoccurs
  cases hoccurs with
  | self => exact ⟨hlength, fun p hp => (hparts p hp).2⟩
  | part hp hoccurs => exact (hparts _ hp).1 inner hoccurs

end Expr

namespace Java

open SuiteLint.Parsing (SourceText)

namespace Tree

theorem operands_of_not_isConcat {e : Expr} (h : e.isConcat = false) : operands e = [e] := by
  cases e with
  | concat parts => cases h
  | _ => rfl

theorem flat_operands {e : Expr} (h : e.Flat) :
    1 ≤ (operands e).length ∧ ∀ p ∈ operands e, p.Flat ∧ p.isConcat = false := by
  cases hchain : e.isConcat with
  | false =>
      rw [operands_of_not_isConcat hchain]
      exact ⟨Nat.le_refl 1, fun p hp => List.mem_singleton.mp hp ▸ ⟨h, hchain⟩⟩
  | true =>
      cases e with
      | concat parts =>
          obtain ⟨hlength, hparts⟩ := h parts .self
          refine ⟨Nat.le_of_succ_le hlength, fun p hp => ⟨fun inner hoccurs => ?_, hparts p hp⟩⟩
          exact h inner (.part hp hoccurs)
      | _ => cases hchain

/-- Reading a tree nests no chain in a chain. -/
theorem flat_toExpr (t : Tree) : t.toExpr.Flat := by
  refine toExpr.induct_unfolding (fun _ e => e.Flat) (fun _ es => ∀ e ∈ es, e.Flat)
    ?string ?bool ?null ?number ?identifier ?dotted ?undotted ?call ?methodCall ?returning
    ?procedure ?lambda ?sum ?operation ?parenthesized ?cast ?creation ?block ?returnStatement ?node
    ?nil ?cons t
  case call =>
    intro line before name args hargs
    exact .call hargs
  case methodCall =>
    intro line object between name args hargs
    exact .call hargs
  case returning =>
    intro before value tail hvalue
    exact .lambda hvalue
  case lambda =>
    intro before body _ _ hbody
    exact .lambda hbody
  case sum =>
    intro operator left between right _ hleft hright
    obtain ⟨hleftLength, hleftParts⟩ := flat_operands hleft
    obtain ⟨hrightLength, hrightParts⟩ := flat_operands hright
    refine .concat ?_ fun p hp => ?_
    · rw [List.length_append]
      omega
    · exact (List.mem_append.mp hp).elim (hleftParts p) (hrightParts p)
  case parenthesized =>
    intro inner rest hinner
    exact hinner
  case cast =>
    intro before value hvalue
    exact hvalue
  case nil =>
    intro e he
    cases he
  case cons =>
    intro t rest ht hrest
    exact List.forall_mem_cons.mpr ⟨ht, hrest⟩
  -- What is left are expressions without parts.
  all_goals
    intros
    rintro parts ⟨⟩

/-! ## Trees that are chains of literals -/

/-- A tree of literals, `+`, parentheses and casts, with the texts of its literals from left to
right. -/
inductive Chain : Tree → List String → Prop
  | string (raw : String) (parts : List Tree) : Chain (.string raw parts) [StringLiteral.value raw]
  | boolTrue : Chain (.bool true) ["true"]
  | boolFalse : Chain (.bool false) ["false"]
  | number (text : String) : Chain (.number text) [text]
  | sum {left right : Tree} {between : List Tree} {ls rs : List String} (hleft : Chain left ls)
      (hright : Chain right rs) : Chain (.binary "+" left between right) (ls ++ rs)
  | parenthesized {inner : Tree} {rest : List Tree} {texts : List String}
      (hinner : Chain inner texts) : Chain (.parenthesized inner rest) texts
  | cast {before : List Tree} {value : Tree} {texts : List String} (hvalue : Chain value texts) :
      Chain (.cast before value) texts

end Tree

/-- Expressions that have their values at once, one for each of some texts. -/
def Literals (scope : Scope) : List Expr → List String → Prop :=
  List.Forall₂ fun e s => ∃ d : Derivation scope e s, d.height = 0

section Fold

variable {scope : Scope} {e : Expr} {s : String} {texts : List String}

theorem literals_singleton (d : Derivation scope e s) (hd : d.height = 0) :
    Literals scope [e] [s] := .cons ⟨d, hd⟩ .nil

/-- The operands of a chain of literals are its literals. -/
theorem Tree.Chain.literals {t : Tree} (h : t.Chain texts) (scope : Scope) :
    Literals scope (Tree.operands t.toExpr) texts := by
  induction h with
  | string raw parts => exact literals_singleton (.str _) rfl
  | boolTrue => exact literals_singleton .boolTrue rfl
  | boolFalse => exact literals_singleton .boolFalse rfl
  | number text => exact literals_singleton (.number text) rfl
  | sum _ _ hleft hright => exact List.rel_append hleft hright
  | parenthesized _ hinner => exact hinner
  | cast _ hvalue => exact hvalue

theorem Literals.exists_derivations {parts : List Expr} (h : Literals scope parts texts) :
    ∃ ds : Derivations scope parts texts, ds.height ≤ 1 := by
  induction h with
  | nil => exact ⟨.nil, Nat.zero_le 1⟩
  | cons hd _ ih =>
      obtain ⟨d, hd⟩ := hd
      obtain ⟨ds, hds⟩ := ih
      exact ⟨.cons d ds, Nat.max_le.mpr ⟨by omega, hds⟩⟩

/-- One step leads to the operands, and none further. -/
theorem fold_of_operands (h : Literals scope (Tree.operands e) texts) :
    scope.fold e = some (String.join texts) := by
  rw [Scope.fold, foldWithin_eq_some_iff]
  cases hchain : e.isConcat with
  | false =>
      rw [Tree.operands_of_not_isConcat hchain] at h
      cases h with
      | cons hd htail =>
          cases htail
          obtain ⟨d, hd⟩ := hd
          rw [String.join_cons, String.join_nil, String.append_empty]
          exact ⟨d, by omega⟩
  | true =>
      cases e with
      | concat parts =>
          obtain ⟨ds, hds⟩ := Literals.exists_derivations h
          exact ⟨.concat ds, Nat.lt_of_le_of_lt hds (by decide)⟩
      | _ => cases hchain

end Fold

/-! ## Nodes that are chains of literals -/

namespace SourceNode

/-- A node plays a role that none of the nodes before it plays. -/
def FirstToPlay (role : Role) (before : List SourceNode) (n : SourceNode) : Prop :=
  n.roles.contains role = true ∧ ∀ m ∈ before, m.roles.contains role = false

/-- A node of literals, `+`, parentheses and casts, with the texts of its literals from left to
right. -/
inductive Chain (source : SourceText) : SourceNode → List String → Prop
  | string {n : SourceNode} (hkind : n.kind? = some .stringLiteral) :
      Chain source n [StringLiteral.value (text source n)]
  | boolTrue {n : SourceNode} (hkind : n.kind? = some .trueLiteral) : Chain source n ["true"]
  | boolFalse {n : SourceNode} (hkind : n.kind? = some .falseLiteral) : Chain source n ["false"]
  | number {n : SourceNode} {kind : Kind} (hkind : n.kind? = some kind)
      (hnumber : kind.isNumber = true) : Chain source n [text source n]
  | sum {n left operator right : SourceNode} {before between behind : List SourceNode}
      {ls rs : List String} (hkind : n.kind? = some .binaryExpression)
      (hchildren : n.children = before ++ left :: (between ++ right :: behind))
      (hfirst : FirstToPlay .left before left) (hsecond : FirstToPlay .right between right)
      (hoperator : n.child? .operator = some operator) (hplus : operator.label = .text "+")
      (hleft : Chain source left ls) (hright : Chain source right rs) : Chain source n (ls ++ rs)
  | parenthesized {n inner : SourceNode} {rest : List SourceNode} {texts : List String}
      (hkind : n.kind? = some .parenthesizedExpression) (hparts : parts n = inner :: rest)
      (hinner : Chain source inner texts) : Chain source n texts
  | cast {n value : SourceNode} {texts : List String} (hkind : n.kind? = some .castExpression)
      (hchild : n.child? .value = some value) (hvalue : Chain source value texts) :
      Chain source n texts

end SourceNode

section Reading

variable {source : SourceText} {n : SourceNode}

/-- A node with its tree. -/
def Branch.of (source : SourceText) (n : SourceNode) : Branch :=
  { node := n, tree := Tree.ofNode source n }

theorem branchesOf_eq_map (ns : List SourceNode) :
    Tree.branchesOf source ns = ns.map (Branch.of source) := by
  induction ns with
  | nil => rfl
  | cons n ns ih => rw [Tree.branchesOf, ih, List.map_cons, Branch.of]

theorem ofNode_of_kind {kind : Kind} (h : n.kind? = some kind) :
    Tree.ofNode source n
      = Tree.ofKind source kind n.start n.stop (n.children.map (Branch.of source)) := by
  obtain ⟨label, roles, start, stop, children⟩ := n
  cases label with
  | kind k =>
      obtain rfl : k = kind := Option.some.inj h
      rw [Tree.ofNode, branchesOf_eq_map]
      rfl
  | text | fault => cases h

theorem trees_map_of (ns : List SourceNode) :
    Branch.trees (ns.map (Branch.of source))
      = (ns.filter SourceNode.isPart).map (Tree.ofNode source) := by
  rw [Branch.trees, List.filter_map, List.map_map]
  rfl

theorem split?_append {role : Role} {before : List SourceNode} {found : SourceNode}
    (h : SourceNode.FirstToPlay role before found) (behind : List SourceNode) :
    Branch.split? role ((before ++ found :: behind).map (Branch.of source))
      = some (before.map (Branch.of source), Branch.of source found,
          behind.map (Branch.of source)) := by
  obtain ⟨hfound, hbefore⟩ := h
  induction before with
  | nil =>
      have hplays : (Branch.of source found).plays role = true := hfound
      rw [List.nil_append, List.map_cons, Branch.split?, if_pos hplays]
      rfl
  | cons m before ih =>
      rw [List.forall_mem_cons] at hbefore
      have hplays : (Branch.of source m).plays role = false := hbefore.1
      rw [List.cons_append, List.map_cons, Branch.split?, hplays, if_neg Bool.false_ne_true,
        ih hbefore.2]
      rfl

theorem ofNode_of_number {kind : Kind} (hkind : n.kind? = some kind)
    (hnumber : kind.isNumber = true) :
    Tree.ofNode source n = .number (SourceNode.text source n) := by
  rw [ofNode_of_kind hkind]
  simp only [Kind.isNumber, List.contains_eq_mem, List.mem_cons, List.not_mem_nil, or_false,
    decide_eq_true_eq] at hnumber
  rcases hnumber with rfl | rfl | rfl | rfl | rfl | rfl <;> rfl

theorem exists_ofNode_sum {left operator right : SourceNode}
    {before between behind : List SourceNode} (hkind : n.kind? = some .binaryExpression)
    (hchildren : n.children = before ++ left :: (between ++ right :: behind))
    (hfirst : SourceNode.FirstToPlay .left before left)
    (hsecond : SourceNode.FirstToPlay .right between right)
    (hoperator : n.child? .operator = some operator) (hplus : operator.label = .text "+") :
    ∃ others, Tree.ofNode source n
      = .binary "+" (Tree.ofNode source left) others (Tree.ofNode source right) := by
  have hfound : (n.children.map (Branch.of source)).find? (Branch.plays .operator)
      = some (Branch.of source operator) := by
    rw [List.find?_map]
    exact congrArg (Option.map (Branch.of source)) hoperator
  have htext : Tree.operatorText (Branch.of source operator) = "+" := by
    simp only [Tree.operatorText, Branch.of, hplus]
  rw [ofNode_of_kind hkind, Tree.ofKind, Tree.ofBinary, hfound, hchildren, split?_append hfirst]
  dsimp only
  rw [split?_append hsecond, htext]
  exact ⟨_, rfl⟩

theorem exists_ofNode_parenthesized {inner : SourceNode} {rest : List SourceNode}
    (hkind : n.kind? = some .parenthesizedExpression)
    (hparts : SourceNode.parts n = inner :: rest) :
    ∃ others, Tree.ofNode source n = .parenthesized (Tree.ofNode source inner) others := by
  have htrees : Branch.trees (n.children.map (Branch.of source))
      = (inner :: rest).map (Tree.ofNode source) := by
    rw [trees_map_of, ← hparts]
    rfl
  rw [ofNode_of_kind hkind, Tree.ofKind, Tree.ofParenthesized, htrees]
  exact ⟨_, rfl⟩

theorem exists_ofNode_cast {value : SourceNode} (hkind : n.kind? = some .castExpression)
    (hchild : n.child? .value = some value) :
    ∃ others, Tree.ofNode source n = .cast others (Tree.ofNode source value) := by
  obtain ⟨hplays, before, behind, hchildren, hbefore⟩ := List.find?_eq_some_iff_append.mp hchild
  have hfirst : SourceNode.FirstToPlay .value before value :=
    ⟨hplays, fun m hm => by simpa using hbefore m hm⟩
  rw [ofNode_of_kind hkind, Tree.ofKind, Tree.ofLast, hchildren, split?_append hfirst]
  exact ⟨_, rfl⟩

/-- Reading a chain of literals gives one. -/
theorem SourceNode.Chain.ofNode {texts : List String} (h : SourceNode.Chain source n texts) :
    (Tree.ofNode source n).Chain texts := by
  induction h with
  | string hkind =>
      rw [ofNode_of_kind hkind]
      exact .string _ _
  | boolTrue hkind =>
      rw [ofNode_of_kind hkind]
      exact .boolTrue
  | boolFalse hkind =>
      rw [ofNode_of_kind hkind]
      exact .boolFalse
  | number hkind hnumber =>
      rw [ofNode_of_number hkind hnumber]
      exact .number _
  | sum hkind hchildren hfirst hsecond hoperator hplus _ _ hleft hright =>
      obtain ⟨others, htree⟩ :=
        exists_ofNode_sum hkind hchildren hfirst hsecond hoperator hplus
      rw [htree]
      exact .sum hleft hright
  | parenthesized hkind hparts _ hinner =>
      obtain ⟨others, htree⟩ := exists_ofNode_parenthesized hkind hparts
      rw [htree]
      exact .parenthesized hinner
  | cast hkind hchild _ hvalue =>
      obtain ⟨others, htree⟩ := exists_ofNode_cast hkind hchild
      rw [htree]
      exact .cast hvalue

end Reading

/-- **Every chain of literals folds, however long or nested.** Its value is the texts of its literals
from left to right, in every scope. In what is read of any tree at all, each chain has at least two
operands, and none of them is a chain. -/
theorem literal_chains_fold (scope : Scope) :
    (∀ (t : Tree) texts, t.Chain texts → scope.fold t.toExpr = some (String.join texts))
    ∧ (∀ source (n : SourceNode) texts, SourceNode.Chain source n texts →
        scope.fold (Tree.ofNode source n).toExpr = some (String.join texts))
    ∧ ∀ (t : Tree) parts, (Expr.concat parts).Occurs t.toExpr →
        2 ≤ parts.length ∧ ∀ p ∈ parts, p.isConcat = false :=
  ⟨fun _ _ h => fold_of_operands (h.literals scope),
    fun _ _ _ h => fold_of_operands (h.ofNode.literals scope), Tree.flat_toExpr⟩

/-- A string literal and behind it some numbers, each in parentheses and a cast of its own. -/
def Tree.towering : Nat → Tree
  | 0 => .string "\"a\\tb\"" []
  | n + 1 => .cast [] (.parenthesized (.binary "+" (towering n) [] (.number "0x1")) [])

theorem Tree.chain_towering (n : Nat) :
    (Tree.towering n).Chain ("a\tb" :: List.replicate n "0x1") := by
  induction n with
  | zero => exact .string _ _
  | succ n ih =>
      rw [List.replicate_succ', ← List.cons_append]
      exact .cast (.parenthesized (.sum ih (.number "0x1")))

/-- The text `"a" + 7`. -/
def sumText : SourceText := .ofString Letters.alphabet "\"a\" + 7"

/-- The node of that text. -/
def sumNode : SourceNode :=
  .node (.kind .binaryExpression) [] 0 7
    [.node (.kind .stringLiteral) [.left] 0 3 [], .node (.text "+") [.operator] 4 5 [],
      .node (.kind .decimalInteger) [.right] 6 7 []]

theorem chain_sumNode : SourceNode.Chain sumText sumNode ["a", "7"] := by
  have hstring : StringLiteral.value (sumText.between 0 3) = "a" := by decide +kernel
  have hnumber : sumText.between 6 7 = "7" := by decide +kernel
  have hchildren : sumNode.children = [] ++ _ :: ([_] ++ _ :: []) := rfl
  have hsum : SourceNode.Chain sumText sumNode (_ ++ _) :=
    .sum rfl hchildren ⟨rfl, by simp⟩ ⟨rfl, by simp [Parsing.Node.roles]⟩ rfl rfl (.string rfl)
      (.number rfl rfl)
  rwa [SourceNode.text, SourceNode.text, Parsing.Node.start, Parsing.Node.stop, hstring,
    Parsing.Node.start, Parsing.Node.stop, hnumber] at hsum

/-- A chain that is nested deeper than folding goes, and one in a text. -/
theorem literal_chains_fold_towering :
    ((Tree.towering 12).Chain ("a\tb" :: List.replicate 12 "0x1")
      ∧ ({} : Scope).fold (Tree.towering 12).toExpr
        = some (String.join ("a\tb" :: List.replicate 12 "0x1")))
    ∧ (SourceNode.Chain sumText sumNode ["a", "7"]
      ∧ ({} : Scope).fold (Tree.ofNode sumText sumNode).toExpr = some "a7")
    ∧ (Expr.concat [.str "a", .number "7"]).Occurs (Tree.ofNode sumText sumNode).toExpr
      ∧ ∀ p ∈ [Expr.str "a", Expr.number "7"], p.isConcat = false := by
  have hoccurs : (Expr.concat [.str "a", .number "7"]).Occurs
      (Tree.ofNode sumText sumNode).toExpr := .self
  obtain ⟨htrees, hnodes, hflat⟩ := literal_chains_fold {}
  exact ⟨⟨Tree.chain_towering 12, htrees _ _ (Tree.chain_towering 12)⟩,
    ⟨chain_sumNode, hnodes _ _ _ chain_sumNode⟩, hoccurs, (hflat _ _ hoccurs).2⟩

end Java

end SuiteLint
