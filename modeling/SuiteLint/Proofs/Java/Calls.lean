import Mathlib.Data.List.Perm.Subperm
import SuiteLint.Proofs.Java.Concatenation

/-!
# Calls inside calls

Two walks over a tree have to stay in step. `Tree.toExpr` goes down to the parts that an expression
keeps, and `Tree.calls` goes down to all parts. Whatever the first one comes across, the second one
has listed (`Tree.mem_calls_of_occurs`), and behind the call that it is an argument of
(`Tree.calls_trailing`).

On the side of the nodes that trees are read from, `SourceNode.callNodes` are the calls of a text.
The list of calls has one entry for each of them, and a call stands before the calls inside it
(`SourceNode.Exposed.lists`). That rests on what a grammar promises of its nodes: operands are named
children.
-/

namespace SuiteLint

/-! ## What stands behind an element -/

/-- Every element of a list stands in a relation to what follows it. -/
def Trailing {α : Type} (rel : α → List α → Prop) : List α → Prop
  | [] => True
  | a :: rest => rel a rest ∧ Trailing rel rest

namespace Trailing

variable {α : Type} {rel : α → List α → Prop}

theorem append (hmono : ∀ a behind more, rel a behind → rel a (behind ++ more)) {as bs : List α}
    (has : Trailing rel as) (hbs : Trailing rel bs) : Trailing rel (as ++ bs) := by
  induction as with
  | nil => exact hbs
  | cons a as ih => exact ⟨hmono a as bs has.1, ih has.2⟩

theorem drop {as : List α} (h : Trailing rel as) {i : Nat} {a : α} (ha : as[i]? = some a) :
    rel a (as.drop (i + 1)) := by
  induction as generalizing i with
  | nil => cases ha
  | cons b as ih =>
      cases i with
      | zero =>
          obtain rfl : b = a := Option.some.inj ha
          exact h.1
      | succ i => exact ih h.2 ha

end Trailing

namespace Java

open SuiteLint.Parsing (SourceText)

/-! ## Calls in expressions -/

/-- All calls in the arguments of a call are among some calls. -/
def ArgumentsIn (call : Invocation) (calls : List Invocation) : Prop :=
  ∀ a ∈ call.args, ∀ c : Invocation, c.toExpr.Occurs a → c ∈ calls

theorem occurs_call_cases {c : Invocation} {receiver : Receiver} {method : String}
    {args : List Expr} {line : Nat} (h : c.toExpr.Occurs (.call receiver method args line)) :
    c = { receiver, method, args, line } ∨ ∃ a ∈ args, c.toExpr.Occurs a := by
  obtain ⟨receiver, method, args, line⟩ := c
  cases h with
  | self => exact .inl rfl
  | arg ha h => exact .inr ⟨_, ha, h⟩

namespace Tree

theorem callsOf_eq_flatMap (ts : List Tree) : callsOf ts = ts.flatMap calls := by
  induction ts with
  | nil => rfl
  | cons t ts ih => rw [callsOf, ih, List.flatMap_cons]

theorem toExprs_eq_map (ts : List Tree) : toExprs ts = ts.map toExpr := by
  induction ts with
  | nil => rfl
  | cons t ts ih => rw [toExprs, ih, List.map_cons]

theorem occurs_of_operand {c e p : Expr} (hp : p ∈ operands e) (h : c.Occurs p) : c.Occurs e := by
  cases hchain : e.isConcat with
  | false =>
      rw [operands_of_not_isConcat hchain, List.mem_singleton] at hp
      exact hp ▸ h
  | true =>
      cases e with
      | concat parts => exact .part hp h
      | _ => cases hchain

/-- Every call in the expression of a tree is among the calls of the tree. -/
theorem mem_calls_of_occurs (t : Tree) :
    ∀ c : Invocation, c.toExpr.Occurs t.toExpr → c ∈ t.calls := by
  refine toExpr.induct_unfolding
    (fun t e => ∀ c : Invocation, c.toExpr.Occurs e → c ∈ t.calls)
    (fun ts es => ∀ e ∈ es, ∀ c : Invocation, c.toExpr.Occurs e → c ∈ callsOf ts)
    ?string ?bool ?null ?number ?identifier ?dotted ?undotted ?call ?methodCall ?returning
    ?procedure ?lambda ?sum ?operation ?parenthesized ?cast ?creation ?block ?returnStatement ?node
    ?nil ?cons t
  case call =>
    intro line before name args hargs c hoccurs
    rcases occurs_call_cases hoccurs with rfl | ⟨a, ha, hoccurs⟩
    · exact List.mem_cons_self
    · exact List.mem_cons_of_mem _ (List.mem_append_right _ (hargs a ha c hoccurs))
  case methodCall =>
    intro line object between name args hargs c hoccurs
    rcases occurs_call_cases hoccurs with rfl | ⟨a, ha, hoccurs⟩
    · exact List.mem_cons_self
    · exact List.mem_cons_of_mem _ (List.mem_append_right _ (hargs a ha c hoccurs))
  case returning =>
    intro before value tail hvalue c hoccurs
    cases hoccurs with
    | result hoccurs =>
        have hc := hvalue c hoccurs
        simp [calls, callsOf, hc]
  case lambda =>
    intro before body _ _ hbody c hoccurs
    cases hoccurs with
    | result hoccurs => exact List.mem_append_right _ (hbody c hoccurs)
  case sum =>
    intro operator left between right _ hleft hright c hoccurs
    cases hoccurs with
    | part hp hoccurs =>
        rcases List.mem_append.mp hp with hp | hp
        · have hc := hleft c (occurs_of_operand hp hoccurs)
          exact List.mem_append_left _ (List.mem_append_left _ hc)
        · exact List.mem_append_right _ (hright c (occurs_of_operand hp hoccurs))
  case parenthesized =>
    intro inner rest hinner c hoccurs
    exact List.mem_append_left _ (hinner c hoccurs)
  case cast =>
    intro before value hvalue c hoccurs
    exact List.mem_append_right _ (hvalue c hoccurs)
  case nil =>
    intro e he
    cases he
  case cons =>
    intro t rest ht hrest e he c hoccurs
    rcases List.mem_cons.mp he with rfl | he
    · exact List.mem_append_left _ (ht c hoccurs)
    · exact List.mem_append_right _ (hrest e he c hoccurs)
  -- What is left are expressions without parts.
  all_goals
    intros
    rename_i hoccurs
    cases hoccurs

theorem argumentsIn_append (call : Invocation) (behind more : List Invocation)
    (h : ArgumentsIn call behind) : ArgumentsIn call (behind ++ more) :=
  fun a ha c hc => List.mem_append_left more (h a ha c hc)

theorem argumentsIn_callsOf {call : Invocation} {args : List Tree}
    (hargs : call.args = toExprs args) (front : List Invocation) :
    ArgumentsIn call (front ++ callsOf args) := by
  intro a ha c hc
  rw [hargs, toExprs_eq_map] at ha
  obtain ⟨t, ht, rfl⟩ := List.mem_map.mp ha
  rw [callsOf_eq_flatMap]
  exact List.mem_append_right front (List.mem_flatMap_of_mem ht (mem_calls_of_occurs t c hc))

/-- The calls in the arguments of a listed call stand behind it. -/
theorem calls_trailing (t : Tree) : Trailing ArgumentsIn t.calls := by
  refine calls.induct_unfolding (fun _ cs => Trailing ArgumentsIn cs)
    (fun _ cs => Trailing ArgumentsIn cs) ?call ?methodCall ?string ?access ?lambda ?binary
    ?parenthesized ?cast ?creation ?block ?returnStatement ?node ?bool ?null ?number ?identifier
    ?nil ?cons t
  case call =>
    intro line before name args hbefore hargs
    exact ⟨argumentsIn_callsOf rfl _, hbefore.append argumentsIn_append hargs⟩
  case methodCall =>
    intro line object between name args hobject hbetween hargs
    refine ⟨argumentsIn_callsOf rfl _, ?_⟩
    exact (hobject.append argumentsIn_append hbetween).append argumentsIn_append hargs
  case binary =>
    intro operator left between right hleft hbetween hright
    exact (hleft.append argumentsIn_append hbetween).append argumentsIn_append hright
  case access | lambda | parenthesized | cast | creation | cons =>
    intros
    rename_i hfirst hsecond
    exact hfirst.append argumentsIn_append hsecond
  case string | block | returnStatement | node =>
    intros
    assumption
  case bool | null | number | identifier | nil =>
    intros
    trivial

end Tree

/-! ## Calls in nodes -/

/-- Whether nodes of a kind are tokens: comments, names, and literals other than strings. -/
def Kind.isToken (k : Kind) : Bool :=
  k.isComment || k.isNumber
    || [trueLiteral, falseLiteral, nullLiteral, identifier, thisReference].contains k

namespace SourceNode

mutual

/-- The calls in a node, each before those inside it. -/
def callNodes : SourceNode → List SourceNode
  | .node label roles start stop children =>
    match label with
    | .kind .methodInvocation => .node label roles start stop children :: callNodesOf children
    | _ => callNodesOf children

/-- The calls in nodes, one node after the other. -/
def callNodesOf : List SourceNode → List SourceNode
  | [] => []
  | n :: rest => callNodes n ++ callNodesOf rest

end

/-- The calls inside a node, the node itself apart. -/
def innerCallNodes (n : SourceNode) : List SourceNode := callNodesOf n.children

/-- The call that a node spells. -/
def invocation (source : SourceText) (n : SourceNode) : Invocation where
  receiver :=
    match n.child? .object with
    | some object => Tree.receiver (Tree.ofNode source object)
    | none => .unqualified
  method := ((n.child? .name).map (text source)).getD ""
  args :=
    match n.child? .arguments with
    | some list => (parts list).map fun a => (Tree.ofNode source a).toExpr
    | none => []
  line := line source n

/-- Whether a node is a token, with a kind or without. -/
def isToken (n : SourceNode) : Bool :=
  match n.label with
  | .kind k => k.isToken
  | .text _ => true
  | .fault => false

/-- What a grammar promises of a node. -/
structure Exposes (n : SourceNode) : Prop where
  /-- No call stands inside a token. -/
  token : n.isToken = true → n.innerCallNodes = []
  /-- The field of an access is a token. -/
  field : n.kind? = some .fieldAccess → ∀ c ∈ n.children, c.roles.contains .field = true →
    isToken c = true
  /-- The arguments of a call stand in a list, which is not what it is called on. -/
  arguments : n.kind? = some .methodInvocation → ∀ c ∈ n.children,
    c.roles.contains .arguments = true →
      c.kind? = some .argumentList ∧ c.roles.contains .object = false

/-- The promise holds of a node and of all nodes in it. -/
inductive Exposed : SourceNode → Prop
  | intro {n : SourceNode} (here : n.Exposes) (below : ∀ c ∈ n.children, Exposed c) : Exposed n

theorem callNodesOf_eq_flatMap (ns : List SourceNode) : callNodesOf ns = ns.flatMap callNodes := by
  induction ns with
  | nil => rfl
  | cons n ns ih => rw [callNodesOf, ih, List.flatMap_cons]

theorem callNodes_of_call {n : SourceNode} (h : n.kind? = some .methodInvocation) :
    n.callNodes = n :: n.innerCallNodes := by
  obtain ⟨label, roles, start, stop, children⟩ := n
  cases label with
  | kind k =>
      obtain rfl : k = .methodInvocation := Option.some.inj h
      rw [callNodes]
      rfl
  | text | fault => cases h

theorem callNodes_of_ne {n : SourceNode} (h : n.kind? ≠ some .methodInvocation) :
    n.callNodes = n.innerCallNodes := by
  obtain ⟨label, roles, start, stop, children⟩ := n
  rw [callNodes]
  · rfl
  · rintro rfl
    exact h rfl

section Visits

variable {source : SourceText} {n : SourceNode} {ns : List SourceNode}

theorem isToken_of_kind {k : Kind} (h : n.kind? = some k) : n.isToken = k.isToken := by
  obtain ⟨label, roles, start, stop, children⟩ := n
  cases label with
  | kind l =>
      obtain rfl : l = k := Option.some.inj h
      rfl
  | text | fault => cases h

theorem isToken_of_not_isPart (h : isPart n = false) : n.isToken = true := by
  obtain ⟨label, roles, start, stop, children⟩ := n
  cases label with
  | kind k =>
      have hcomment : k.isComment = true := by
        simpa [isPart, Parsing.Node.isNamed, Parsing.Node.kind?, Parsing.Node.label] using h
      simp [isToken, Kind.isToken, Parsing.Node.label, hcomment]
  | text => rfl
  | fault => cases h

theorem Exposes.callNodes_eq_nil (h : n.Exposes) (htoken : n.isToken = true) :
    n.callNodes = [] := by
  rw [callNodes_of_ne, h.token htoken]
  intro hkind
  rw [isToken_of_kind hkind] at htoken
  exact absurd htoken Bool.false_ne_true

/-- What is no part holds no call. -/
theorem callNodesOf_filter_isPart (h : ∀ c ∈ ns, c.Exposes) :
    callNodesOf (ns.filter isPart) = callNodesOf ns := by
  induction ns with
  | nil => rfl
  | cons n ns ih =>
      rw [List.forall_mem_cons] at h
      rw [callNodesOf, List.filter_cons, ← ih h.2]
      split
      · rfl
      · rename_i hpart
        have htoken := isToken_of_not_isPart (Bool.eq_false_iff.mpr hpart)
        rw [h.1.callNodes_eq_nil htoken, List.nil_append]

theorem exists_firstToPlay (role : Role) (ns : List SourceNode) :
    (∀ m ∈ ns, m.roles.contains role = false) ∨ ∃ before found behind,
      ns = before ++ found :: behind ∧ FirstToPlay role before found := by
  cases hfind : ns.find? fun m => m.roles.contains role with
  | none => exact .inl fun m hm => by simpa using List.find?_eq_none.mp hfind m hm
  | some found =>
      obtain ⟨hplays, before, behind, hns, hbefore⟩ := List.find?_eq_some_iff_append.mp hfind
      exact .inr ⟨before, found, behind, hns, hplays, fun m hm => by simpa using hbefore m hm⟩

theorem split?_eq_none {role : Role} (h : ∀ m ∈ ns, m.roles.contains role = false) :
    Branch.split? role (ns.map (Branch.of source)) = none := by
  induction ns with
  | nil => rfl
  | cons n ns ih =>
      rw [List.forall_mem_cons] at h
      have hplays : (Branch.of source n).plays role = false := h.1
      rw [List.map_cons, Branch.split?, hplays, if_neg Bool.false_ne_true, ih h.2]
      rfl

theorem find?_of_firstToPlay {role : Role} {before behind : List SourceNode} {found : SourceNode}
    (h : FirstToPlay role before found) :
    (before ++ found :: behind).find? (fun m => m.roles.contains role) = some found :=
  List.find?_eq_some_iff_append.mpr
    ⟨h.1, before, behind, rfl, fun m hm => by simpa using h.2 m hm⟩

/-- The calls that are listed for a node. -/
def listed (source : SourceText) (n : SourceNode) : List Invocation := (Tree.ofNode source n).calls

theorem callsOf_trees (ns : List SourceNode) :
    Tree.callsOf (Branch.trees (ns.map (Branch.of source)))
      = (ns.filter isPart).flatMap (listed source) := by
  rw [trees_map_of, Tree.callsOf_eq_flatMap, List.flatMap_map]
  rfl

/-- Behind some calls of its own, a node lists those of its children, in some order. Children that
are left out hold no call. -/
def Visits (source : SourceText) (n : SourceNode) (own : List Invocation) : Prop :=
  ∃ ns, (∀ c ∈ ns, c ∈ n.children) ∧ (callNodesOf ns).Perm n.innerCallNodes ∧
    listed source n = own ++ ns.flatMap (listed source)

theorem visits_of_token {own : List Invocation} (hn : n.Exposes) (htoken : n.isToken = true)
    (hcalls : listed source n = own) : Visits source n own := by
  refine ⟨[], by simp, ?_, by simpa using hcalls⟩
  rw [hn.token htoken]
  exact List.Perm.refl []

theorem visits_of_perm {own : List Invocation} (front others back quiet : List SourceNode)
    (hchildren : ∀ c ∈ n.children, Exposes c)
    (hperm : n.children.Perm (front ++ (others ++ back) ++ quiet))
    (hquiet : callNodesOf quiet = [])
    (hcalls : listed source n = own ++ (front.flatMap (listed source)
      ++ (Tree.callsOf (Branch.trees (others.map (Branch.of source)))
        ++ back.flatMap (listed source)))) : Visits source n own := by
  have hothers : ∀ c ∈ others, c.Exposes := fun c hc =>
    hchildren c (hperm.mem_iff.mpr (by simp [hc]))
  refine ⟨front ++ (others.filter isPart ++ back), fun c hc => ?_, ?_, ?_⟩
  · refine hperm.mem_iff.mpr ?_
    simp only [List.mem_append, List.mem_filter] at hc ⊢
    tauto
  · have hinner := hperm.flatMap_right callNodes
    rw [List.flatMap_append, ← callNodesOf_eq_flatMap, ← callNodesOf_eq_flatMap,
      ← callNodesOf_eq_flatMap, hquiet, List.append_nil] at hinner
    refine List.Perm.trans (List.Perm.of_eq ?_) hinner.symm
    simp only [callNodesOf_eq_flatMap, List.flatMap_append]
    rw [← callNodesOf_eq_flatMap (others.filter isPart), callNodesOf_filter_isPart hothers,
      callNodesOf_eq_flatMap]
  · rw [hcalls, callsOf_trees, List.flatMap_append, List.flatMap_append]

theorem ofNode_of_kind?_eq_none (h : n.kind? = none) :
    Tree.ofNode source n = .node (Branch.trees (n.children.map (Branch.of source))) := by
  obtain ⟨label, roles, start, stop, children⟩ := n
  cases label with
  | kind k => cases h
  | text | fault =>
      rw [Tree.ofNode, branchesOf_eq_map]
      · rfl
      · rintro k ⟨⟩

/-- A node that is nothing but its parts. -/
theorem visits_of_parts (hchildren : ∀ c ∈ n.children, Exposes c)
    (hcalls : listed source n
      = Tree.callsOf (Branch.trees (n.children.map (Branch.of source)))) : Visits source n [] := by
  refine visits_of_perm [] n.children [] [] hchildren ?_ rfl ?_
  · simp
  · simpa using hcalls

theorem perm_singleton_last (before behind : List SourceNode) (c : SourceNode) :
    (before ++ c :: behind).Perm (before ++ behind ++ [c]) :=
  List.perm_middle.trans (List.perm_append_singleton c (before ++ behind)).symm

theorem visits_access (hn : n.Exposes) (hchildren : ∀ c ∈ n.children, Exposes c)
    (hkind : n.kind? = some .fieldAccess) : Visits source n [] := by
  have htree : Tree.ofNode source n = Tree.ofAccess source (n.children.map (Branch.of source)) :=
    ofNode_of_kind hkind
  rcases exists_firstToPlay .object n.children with hnone | ⟨before, object, rest, hrest, hobject⟩
  · refine visits_of_parts hchildren ?_
    rw [listed, htree, Tree.ofAccess, split?_eq_none hnone]
    rfl
  rcases exists_firstToPlay .field rest with hnone | ⟨between, field, behind, hbehind, hfield⟩
  · refine visits_of_parts hchildren ?_
    rw [listed, htree, Tree.ofAccess, hrest, split?_append hobject]
    dsimp only
    rw [split?_eq_none hnone, ← hrest]
    rfl
  · have hmem : field ∈ n.children := by simp [hrest, hbehind]
    have hquiet := (hchildren field hmem).callNodes_eq_nil (hn.field hkind field hmem hfield.1)
    refine visits_of_perm [object] (before ++ between ++ behind) [] [field] hchildren ?_ ?_ ?_
    · rw [hrest, hbehind, List.append_nil]
      refine List.perm_middle.trans (List.Perm.cons object ?_)
      rw [← List.append_assoc]
      exact perm_singleton_last (before ++ between) behind field
    · rw [callNodesOf, callNodesOf, hquiet, List.append_nil]
    · rw [listed, htree, Tree.ofAccess, hrest, split?_append hobject]
      dsimp only
      rw [hbehind, split?_append hfield]
      simp [Tree.calls, listed, Branch.of]

theorem visits_last {role : Role} {make : List Tree → Tree → Tree}
    (hchildren : ∀ c ∈ n.children, Exposes c)
    (htree : Tree.ofNode source n = Tree.ofLast role make (n.children.map (Branch.of source)))
    (hmake : ∀ before last, (make before last).calls = Tree.callsOf before ++ last.calls) :
    Visits source n [] := by
  rcases exists_firstToPlay role n.children with hnone | ⟨before, last, behind, hbehind, hlast⟩
  · refine visits_of_parts hchildren ?_
    rw [listed, htree, Tree.ofLast, split?_eq_none hnone]
    rfl
  · refine visits_of_perm [] (before ++ behind) [last] [] hchildren ?_ rfl ?_
    · rw [hbehind, List.append_nil]
      exact perm_singleton_last before behind last
    · rw [listed, htree, Tree.ofLast, hbehind, split?_append hlast]
      simp [hmake, listed, Branch.of]

theorem visits_binary (hchildren : ∀ c ∈ n.children, Exposes c)
    (hkind : n.kind? = some .binaryExpression) : Visits source n [] := by
  have htree : Tree.ofNode source n = Tree.ofBinary (n.children.map (Branch.of source)) :=
    ofNode_of_kind hkind
  rcases exists_firstToPlay .left n.children with hnone | ⟨before, left, rest, hrest, hleft⟩
  · refine visits_of_parts hchildren ?_
    rw [listed, htree, Tree.ofBinary, split?_eq_none hnone]
    rfl
  cases hoperator : (n.children.map (Branch.of source)).find? (Branch.plays .operator) with
  | none =>
      refine visits_of_parts hchildren ?_
      rw [listed, htree, Tree.ofBinary, hoperator, hrest, split?_append hleft]
      rfl
  | some operator =>
      rcases exists_firstToPlay .right rest with hnone | ⟨between, right, behind, hbehind, hright⟩
      · refine visits_of_parts hchildren ?_
        rw [listed, htree, Tree.ofBinary, hoperator, hrest, split?_append hleft]
        dsimp only
        rw [split?_eq_none hnone, ← hrest]
        rfl
      · refine visits_of_perm [left] (before ++ between ++ behind) [right] [] hchildren ?_ rfl ?_
        · rw [hrest, hbehind, List.append_nil]
          refine List.perm_middle.trans (List.Perm.cons left ?_)
          rw [← List.append_assoc]
          exact perm_singleton_last (before ++ between) behind right
        · rw [listed, htree, Tree.ofBinary, hoperator, hrest, split?_append hleft]
          dsimp only
          rw [hbehind, split?_append hright]
          simp [Tree.calls, listed, Branch.of]

/-- The tree of a call with some arguments, given the other children. -/
def callOn (line : Nat) (name : String) (args : List Tree) (front : List Branch) : Tree :=
  match Branch.split? .object front with
  | none => .call line (Branch.trees front) name args
  | some (before, object, rest) =>
    .methodCall line object.tree (Branch.trees (before ++ rest)) name args

/-- The receiver of a call, given its children. -/
def receiverAmong (source : SourceText) (ns : List SourceNode) : Receiver :=
  match ns.find? fun c => c.roles.contains .object with
  | some object => Tree.receiver (Tree.ofNode source object)
  | none => .unqualified

theorem exists_calls_callOn (source : SourceText) (line : Nat) (name : String) (args : List Tree)
    (front : List SourceNode) : ∃ objects others : List SourceNode,
      front.Perm (objects ++ others) ∧
        (callOn line name args (front.map (Branch.of source))).calls
          = { receiver := receiverAmong source front, method := name,
              args := Tree.toExprs args, line }
            :: (objects.flatMap (listed source)
              ++ (Tree.callsOf (Branch.trees (others.map (Branch.of source)))
                ++ Tree.callsOf args)) := by
  rcases exists_firstToPlay .object front with hnone | ⟨before, object, rest, rfl, hobject⟩
  · refine ⟨[], front, List.Perm.refl front, ?_⟩
    have hfind : front.find? (fun c => c.roles.contains .object) = none :=
      List.find?_eq_none.mpr fun c hc => by simpa using hnone c hc
    rw [callOn, split?_eq_none hnone, receiverAmong, hfind]
    rfl
  · refine ⟨[object], before ++ rest, List.perm_middle, ?_⟩
    rw [callOn, split?_append hobject, receiverAmong, find?_of_firstToPlay hobject]
    simp [Tree.calls, listed, Branch.of]

theorem ofNode_of_call (hkind : n.kind? = some .methodInvocation) :
    Tree.ofNode source n =
      match Branch.split? .arguments (n.children.map (Branch.of source)) with
      | none => callOn (line source n) (invocation source n).method []
          (n.children.map (Branch.of source))
      | some (front, list, behind) => callOn (line source n) (invocation source n).method
          list.tree.parts (front ++ behind) := by
  have htree : Tree.ofNode source n
      = Tree.ofCall source (line source n) (n.children.map (Branch.of source)) :=
    ofNode_of_kind hkind
  have hname : (((n.children.map (Branch.of source)).find? (Branch.plays .name)).map fun b =>
      text source b.node) = (n.child? .name).map (text source) := by
    rw [List.find?_map, Option.map_map]
    rfl
  rw [htree, Tree.ofCall, hname]
  cases Branch.split? .arguments (n.children.map (Branch.of source)) <;> rfl

/-- A call that has lost its arguments. -/
theorem visits_call_of_none (hchildren : ∀ c ∈ n.children, Exposes c)
    (hkind : n.kind? = some .methodInvocation)
    (hnone : ∀ c ∈ n.children, c.roles.contains .arguments = false) :
    Visits source n [invocation source n] := by
  obtain ⟨objects, others, hperm, hcalls⟩ :=
    exists_calls_callOn source (line source n) (invocation source n).method [] n.children
  have hchild : n.child? .arguments = none :=
    List.find?_eq_none.mpr fun c hc => by simpa using hnone c hc
  have hargs : (invocation source n).args = Tree.toExprs [] := by
    rw [invocation, hchild]
    rfl
  refine visits_of_perm objects others [] [] hchildren ?_ rfl ?_
  · simpa using hperm
  · rw [listed, ofNode_of_call hkind, split?_eq_none hnone]
    exact hcalls.trans (by rw [← hargs]; rfl)

theorem visits_call_of_list (hn : n.Exposes) (hchildren : ∀ c ∈ n.children, Exposes c)
    (hkind : n.kind? = some .methodInvocation) {before behind : List SourceNode}
    {list : SourceNode} (hbehind : n.children = before ++ list :: behind)
    (hlist : FirstToPlay .arguments before list) : Visits source n [invocation source n] := by
  obtain ⟨hkindList, hobject⟩ := hn.arguments hkind list (by simp [hbehind]) hlist.1
  have hchild : n.child? .arguments = some list := by
    rw [Parsing.Node.child?, hbehind, find?_of_firstToPlay hlist]
  have hlistTree : Tree.ofNode source list = .node ((parts list).map (Tree.ofNode source)) := by
    rw [ofNode_of_kind hkindList]
    exact congrArg Tree.node (trees_map_of list.children)
  have hargs : (invocation source n).args = Tree.toExprs (Tree.ofNode source list).parts := by
    rw [invocation, hchild, hlistTree, Tree.parts, Tree.toExprs_eq_map, List.map_map]
    rfl
  have hcallsList : Tree.callsOf (Tree.ofNode source list).parts = listed source list := by
    rw [listed, hlistTree]
    rfl
  have hreceiver : receiverAmong source (before ++ behind) = (invocation source n).receiver := by
    have hfind : (before ++ behind).find? (fun c => c.roles.contains .object)
        = n.child? .object := by
      rw [Parsing.Node.child?, hbehind, List.find?_append, List.find?_append, List.find?_cons,
        hobject]
    rw [receiverAmong, hfind]
    rfl
  obtain ⟨objects, others, hperm, hcalls⟩ :=
    exists_calls_callOn source (line source n) (invocation source n).method
      (Tree.ofNode source list).parts (before ++ behind)
  refine visits_of_perm objects others [list] [] hchildren ?_ rfl ?_
  · rw [hbehind, List.append_nil, ← List.append_assoc]
    exact (perm_singleton_last before behind list).trans (hperm.append_right [list])
  · rw [hreceiver, ← hargs, hcallsList] at hcalls
    rw [listed, ofNode_of_call hkind, hbehind, split?_append hlist]
    dsimp only
    rw [← List.map_append, Branch.of, hcalls]
    simp [invocation]

theorem visits_call (hn : n.Exposes) (hchildren : ∀ c ∈ n.children, Exposes c)
    (hkind : n.kind? = some .methodInvocation) : Visits source n [invocation source n] := by
  rcases exists_firstToPlay .arguments n.children with hnone | ⟨before, list, behind, hns, hlist⟩
  · exact visits_call_of_none hchildren hkind hnone
  · exact visits_call_of_list hn hchildren hkind hns hlist

theorem visits_parenthesized (hchildren : ∀ c ∈ n.children, Exposes c)
    (htree : Tree.ofNode source n = Tree.ofParenthesized (n.children.map (Branch.of source))) :
    Visits source n [] := by
  refine visits_of_parts hchildren ?_
  rw [listed, htree, Tree.ofParenthesized]
  cases Branch.trees (n.children.map (Branch.of source)) <;> rfl

theorem visits_creation (hchildren : ∀ c ∈ n.children, Exposes c)
    (htree : Tree.ofNode source n = Tree.ofCreation source (n.children.map (Branch.of source))) :
    Visits source n [] := by
  refine visits_of_parts hchildren ?_
  rw [listed, htree, Tree.ofCreation]
  rcases exists_firstToPlay .type n.children with hnone | ⟨before, type, behind, hbehind, htype⟩
  · rw [split?_eq_none hnone]
    rfl
  · rw [hbehind, split?_append htype, callsOf_trees, List.filter_append, List.flatMap_append,
      ← callsOf_trees, ← callsOf_trees]
    rfl

/-- Whatever is no call lists the calls of its children. -/
theorem visits_of_ne (hn : n.Exposes) (hchildren : ∀ c ∈ n.children, Exposes c)
    (hne : n.kind? ≠ some .methodInvocation) : Visits source n [] := by
  cases hkind : n.kind? with
  | none =>
      refine visits_of_parts hchildren ?_
      rw [listed, ofNode_of_kind?_eq_none hkind]
      rfl
  | some kind =>
      have htoken := isToken_of_kind hkind
      have htree : Tree.ofNode source n = _ := ofNode_of_kind hkind
      unfold Tree.ofKind at htree
      split at htree
      -- A string literal lists the calls of its interpolations.
      · exact visits_of_parts hchildren (by rw [listed, htree]; rfl)
      · exact visits_of_token hn htoken (by rw [listed, htree]; rfl)
      · exact visits_of_token hn htoken (by rw [listed, htree]; rfl)
      · exact visits_of_token hn htoken (by rw [listed, htree]; rfl)
      · exact visits_of_token hn htoken (by rw [listed, htree]; rfl)
      · exact visits_of_token hn htoken (by rw [listed, htree]; rfl)
      · exact visits_access hn hchildren hkind
      · exact absurd hkind hne
      · exact visits_last hchildren htree fun _ _ => rfl
      · exact visits_binary hchildren hkind
      · exact visits_parenthesized hchildren htree
      · exact visits_last hchildren htree fun _ _ => rfl
      · exact visits_creation hchildren htree
      · exact visits_of_parts hchildren (by rw [listed, htree]; rfl)
      · exact visits_of_parts hchildren (by rw [listed, htree]; rfl)
      · split at htree
        · rename_i hnumber
          refine visits_of_token hn ?_ (by rw [listed, htree]; rfl)
          simp [htoken, Kind.isToken, hnumber]
        · exact visits_of_parts hchildren (by rw [listed, htree]; rfl)

end Visits

/-! ## Calls of a text -/

section Lists

variable {source : SourceText} {ns ms : List SourceNode} {cs ds : List Invocation}

/-- Calls that are listed for calls in nodes: one for each, and each before those inside it. -/
def Lists (source : SourceText) (ns : List SourceNode) (calls : List Invocation) : Prop :=
  ∃ sites : List SourceNode, sites.Perm ns ∧ calls = sites.map (invocation source) ∧
    Trailing (fun m behind => (innerCallNodes m).Subperm behind) sites

theorem Lists.append (h : Lists source ns cs) (h' : Lists source ms ds) :
    Lists source (ns ++ ms) (cs ++ ds) := by
  obtain ⟨sites, hperm, rfl, htrailing⟩ := h
  obtain ⟨sites', hperm', rfl, htrailing'⟩ := h'
  refine ⟨sites ++ sites', hperm.append hperm', List.map_append.symm, ?_⟩
  refine htrailing.append (fun m behind more hsub => ?_) htrailing'
  exact hsub.trans (List.sublist_append_left behind more).subperm

theorem Lists.cons {n : SourceNode} (h : Lists source n.innerCallNodes cs) :
    Lists source (n :: n.innerCallNodes) (invocation source n :: cs) := by
  obtain ⟨sites, hperm, rfl, htrailing⟩ := h
  exact ⟨n :: sites, hperm.cons n, rfl, hperm.symm.subperm, htrailing⟩

theorem Lists.of_perm (h : Lists source ns cs) (hperm : ns.Perm ms) : Lists source ms cs := by
  obtain ⟨sites, hsites, hcalls, htrailing⟩ := h
  exact ⟨sites, hsites.trans hperm, hcalls, htrailing⟩

theorem lists_callNodesOf (h : ∀ n ∈ ns, Lists source (callNodes n) (listed source n)) :
    Lists source (callNodesOf ns) (ns.flatMap (listed source)) := by
  induction ns with
  | nil => exact ⟨[], List.Perm.refl [], rfl, trivial⟩
  | cons n ns ih =>
      rw [List.forall_mem_cons] at h
      rw [callNodesOf, List.flatMap_cons]
      exact h.1.append (ih h.2)

theorem Exposed.exposes {n : SourceNode} (h : n.Exposed) : n.Exposes := by
  cases h with
  | intro here _ => exact here

/-- Reading a node lists the calls in it. -/
theorem Exposed.lists {n : SourceNode} (h : n.Exposed) (source : SourceText) :
    Lists source n.callNodes (listed source n) := by
  induction h with
  | @intro n here below ih =>
      have hchildren : ∀ c ∈ n.children, Exposes c := fun c hc => (below c hc).exposes
      by_cases hkind : n.kind? = some .methodInvocation
      · obtain ⟨ns, hmem, hperm, hcalls⟩ : Visits source n _ := visits_call here hchildren hkind
        rw [callNodes_of_call hkind, hcalls]
        exact ((lists_callNodesOf fun c hc => ih c (hmem c hc)).of_perm hperm).cons
      · obtain ⟨ns, hmem, hperm, hcalls⟩ : Visits source n _ := visits_of_ne here hchildren hkind
        rw [callNodes_of_ne hkind, hcalls]
        exact (lists_callNodesOf fun c hc => ih c (hmem c hc)).of_perm hperm

end Lists

end SourceNode

/-- **No call escapes.** A call at any depth in the arguments of a listed call is listed itself,
further behind. And where a grammar keeps its promises, the list has one entry for each call of the
text, and each stands before the calls in its receiver and in its arguments. -/
theorem no_call_escapes (source : SourceText) :
    (∀ (t : Tree) (i : Nat) (call : Invocation), t.calls[i]? = some call →
      ∀ a ∈ call.args, ∀ c : Invocation, c.toExpr.Occurs a →
        ∃ j, i < j ∧ t.calls[j]? = some c)
    ∧ ∀ n : SourceNode, n.Exposed → ∃ sites : List SourceNode,
        sites.Perm n.callNodes
        ∧ (Tree.ofNode source n).calls = sites.map (SourceNode.invocation source)
        ∧ ∀ (i : Nat) (m : SourceNode), sites[i]? = some m →
            m.innerCallNodes.Subperm (sites.drop (i + 1)) := by
  refine ⟨fun t i call hcall a ha c hc => ?_, fun n hn => ?_⟩
  · have hmem : c ∈ t.calls.drop (i + 1) := t.calls_trailing.drop hcall a ha c hc
    obtain ⟨k, hk⟩ := List.mem_iff_getElem?.mp hmem
    rw [List.getElem?_drop] at hk
    exact ⟨i + 1 + k, by omega, hk⟩
  · obtain ⟨sites, hperm, hcalls, htrailing⟩ := hn.lists source
    exact ⟨sites, hperm, hcalls, fun i m hm => htrailing.drop hm⟩

/-- The text `list.add(get(0))`. -/
def nestedText : SourceText := .ofString Letters.alphabet "list.add(get(0))"

/-- The node of `get(0)` in that text. -/
def innerCallNode : SourceNode :=
  .node (.kind .methodInvocation) [] 9 15
    [.node (.kind .identifier) [.name] 9 12 [],
      .node (.kind .argumentList) [.arguments] 12 15
        [.node (.text "(") [] 12 13 [], .node (.kind .decimalInteger) [] 13 14 [],
          .node (.text ")") [] 14 15 []]]

/-- The node of that text. -/
def outerCallNode : SourceNode :=
  .node (.kind .methodInvocation) [] 0 16
    [.node (.kind .identifier) [.object] 0 4 [], .node (.text ".") [] 4 5 [],
      .node (.kind .identifier) [.name] 5 8 [],
      .node (.kind .argumentList) [.arguments] 8 16
        [.node (.text "(") [] 8 9 [], innerCallNode, .node (.text ")") [] 15 16 []]]

theorem SourceNode.exposed_of_children_eq_nil {n : SourceNode} (h : n.children = []) :
    n.Exposed := by
  refine .intro ⟨fun _ => ?_, fun _ c hc => ?_, fun _ c hc => ?_⟩ fun c hc => ?_
  · rw [innerCallNodes, h, callNodesOf]
  all_goals
    rw [h] at hc
    cases hc

theorem exposed_innerCallNode : innerCallNode.Exposed := by
  refine .intro ⟨fun h => absurd h (by decide), by decide, by decide⟩ ?_
  refine List.forall_mem_cons.mpr ⟨SourceNode.exposed_of_children_eq_nil rfl, ?_⟩
  refine List.forall_mem_singleton.mpr ?_
  refine .intro ⟨fun h => absurd h (by decide), by decide, by decide⟩ ?_
  simp only [Parsing.Node.children, List.forall_mem_cons]
  exact ⟨SourceNode.exposed_of_children_eq_nil rfl, SourceNode.exposed_of_children_eq_nil rfl,
    SourceNode.exposed_of_children_eq_nil rfl, List.forall_mem_nil _⟩

theorem exposed_outerCallNode : outerCallNode.Exposed := by
  refine .intro ⟨fun h => absurd h (by decide), by decide, by decide⟩ ?_
  simp only [outerCallNode, Parsing.Node.children, List.forall_mem_cons]
  refine ⟨SourceNode.exposed_of_children_eq_nil rfl, SourceNode.exposed_of_children_eq_nil rfl,
    SourceNode.exposed_of_children_eq_nil rfl, ?_, List.forall_mem_nil _⟩
  refine .intro ⟨fun h => absurd h (by decide), by decide, by decide⟩ ?_
  simp only [Parsing.Node.children, List.forall_mem_cons]
  exact ⟨SourceNode.exposed_of_children_eq_nil rfl, exposed_innerCallNode,
    SourceNode.exposed_of_children_eq_nil rfl, List.forall_mem_nil _⟩

/-- The calls of that text. -/
theorem calls_outerCallNode : (Tree.ofNode nestedText outerCallNode).calls =
    [{ receiver := .named "list", method := "add"
       args := [.call .unqualified "get" [.number "0"] 1], line := 1 },
      { receiver := .unqualified, method := "get", args := [.number "0"], line := 1 }] := by
  rfl

/-- The call in the arguments stands behind the one around it, and there are no others. -/
theorem no_call_escapes_nested :
    (outerCallNode.Exposed ∧ ∃ sites : List SourceNode,
      sites.Perm [outerCallNode, innerCallNode]
      ∧ (Tree.ofNode nestedText outerCallNode).calls
        = sites.map (SourceNode.invocation nestedText)
      ∧ ∀ (i : Nat) (m : SourceNode), sites[i]? = some m →
          m.innerCallNodes.Subperm (sites.drop (i + 1)))
    ∧ ∃ j, 0 < j ∧ (Tree.ofNode nestedText outerCallNode).calls[j]?
        = some { receiver := .unqualified, method := "get", args := [.number "0"], line := 1 } := by
  obtain ⟨htrees, hnodes⟩ := no_call_escapes nestedText
  refine ⟨⟨exposed_outerCallNode, hnodes outerCallNode exposed_outerCallNode⟩, ?_⟩
  refine htrees _ 0 _ (by rw [calls_outerCallNode]; rfl) _ List.mem_cons_self _ ?_
  exact .self

end Java

end SuiteLint
