import SuiteLint.Parsing.Vocabulary

/-!
# Merging states

States with the same items differ only in the tokens that may follow. They are merged unless they do
different things for a token, or one of them expects a token that would be read in the place of a
token of the other one. Merged states must lead to merged states; states for which this fails are
separated again, until nothing changes.
-/

namespace SuiteLint.Parsing

/-- Divides states: those that differ from the first one, or from the next one that stays, are split
off. -/
def separate {α : Type} (differ : α → α → Bool) : List α → List α × List α
  | [] => ([], [])
  | x :: rest =>
    let (kept, split) := separate differ (rest.filter fun y => !differ x y)
    (x :: kept, rest.filter (differ x) ++ split)
termination_by xs => xs.length
decreasing_by
  rw [List.length_unattach]
  exact Nat.lt_succ_of_le
    (Nat.le_trans (List.length_filter_le _ _) (Nat.le_of_eq List.length_attach))

/-- What states have in common, while they are being grouped. -/
structure Grouping where
  /-- The states of each group. -/
  groups : Array (List Nat)
  /-- The group of each state. -/
  groupOf : Array Nat
deriving Inhabited

namespace Grouping

/-- Whether two states, as pairs of a symbol and the state behind it in order of symbols, lead to
different groups. -/
def divergent (groupOf : Array Nat) : List (Nat × Nat) → List (Nat × Nat) → Bool
  | [], _ => false
  | _ :: _, [] => false
  | (s, x) :: xs, (t, y) :: ys =>
    if s < t then divergent groupOf xs ((t, y) :: ys)
    else if t < s then divergent groupOf ((s, x) :: xs) ys
    else groupOf.getD x 0 != groupOf.getD y 0 || divergent groupOf xs ys
termination_by xs ys => xs.length + ys.length

/-- Whether two actions are the same up to the groups of states. -/
def sameAction (groupOf : Array Nat) : Action → Action → Bool
  | .shift x r, .shift y q => groupOf.getD x 0 == groupOf.getD y 0 && r == q
  | a, b => a == b

/-- Whether two lists of actions are the same up to the groups of states. -/
def sameActions (groupOf : Array Nat) : List Action → List Action → Bool
  | [], [] => true
  | a :: as, b :: bs => sameAction groupOf a b && sameActions groupOf as bs
  | _, _ => false

/-- What a state does, token by token in order. -/
structure Deeds where
  tokens : IndexSet
  entries : List (Nat × List Action)
deriving Inhabited

/-- What a state does. -/
def deedsOf (s : AutomatonState) : Deeds :=
  { tokens := s.tokens
    entries := (List.range s.actions.size).filterMap fun t =>
      match s.actions.getD t [] with
      | [] => none
      | actions => some (t, actions) }

/-- Whether two states must not be merged, given what is left of their deeds: they do different
things for a token, or a token of one of them gets into the way of the other one. -/
def incompatible (clashes : Array IndexSet) (groupOf : Array Nat) (x y : IndexSet) :
    List (Nat × List Action) → List (Nat × List Action) → Bool
  | [], ys => ys.any fun (t, _) => (clashes.getD t ∅).meets x
  | xs, [] => xs.any fun (s, _) => (clashes.getD s ∅).meets y
  | (s, as) :: xs, (t, bs) :: ys =>
    if s < t then
      (clashes.getD s ∅).meets y || incompatible clashes groupOf x y xs ((t, bs) :: ys)
    else if t < s then
      (clashes.getD t ∅).meets x || incompatible clashes groupOf x y ((s, as) :: xs) ys
    else !sameActions groupOf as bs || incompatible clashes groupOf x y xs ys
termination_by xs ys => xs.length + ys.length

/-- Divides one group. -/
def refineGroup (differ : Array Nat → Nat → Nat → Bool) (gr : Grouping) (i : Nat) : Grouping :=
  let (kept, split) := separate (differ gr.groupOf) (gr.groups.getD i [])
  if split.isEmpty then gr
  else
    { groups := (gr.groups.setIfInBounds i kept).push split
      groupOf := split.foldl (fun g s => g.setIfInBounds s gr.groups.size) gr.groupOf }

/-- Divides all groups from the `i`-th one on, new ones included, in at most `fuel` steps. -/
def refineFrom (differ : Array Nat → Nat → Nat → Bool) : Nat → Nat → Grouping → Grouping
  | 0, _, gr => gr
  | fuel + 1, i, gr =>
    if i < gr.groups.size then refineFrom differ fuel (i + 1) (gr.refineGroup differ i) else gr

/-- Divides groups until nothing changes, in at most `fuel` rounds. -/
def refineAll (differ : Array Nat → Nat → Nat → Bool) (bound : Nat) : Nat → Grouping → Grouping
  | 0, gr => gr
  | fuel + 1, gr =>
    let next := refineFrom differ bound 0 gr
    if next.groups.size == gr.groups.size then gr else refineAll differ bound fuel next

/-- The states of each core. -/
def ofCores (a : Automaton) : Grouping :=
  { groups := a.states.foldl
      (fun (groups, i) s => (groups.modify s.core (i :: ·), i + 1))
      (Array.replicate a.coreCount ([] : List Nat), 0) |>.1.map List.reverse
    groupOf := a.states.map AutomatonState.core }

/-- The states behind the tokens and phrases of a state; phrases are numbered behind the tokens. -/
def successorsOf (s : AutomatonState) : List (Nat × Nat) :=
  let shifts := (List.range s.actions.size).filterMap fun t =>
    match (s.actions.getD t []).getLast? with
    | some (.shift target _) => some (t, target)
    | _ => none
  shifts ++ s.gotos.map fun (p, target) => (s.actions.size + p, target)

/-- The groups of states that can be merged. -/
def ofAutomaton (clashes : Array IndexSet) (a : Automaton) : Grouping :=
  let deeds := a.states.map deedsOf
  let successors := a.states.map successorsOf
  let bound := a.states.size + 1
  let apart := refineFrom
    (fun groupOf i j =>
      let x := deeds.getD i default
      let y := deeds.getD j default
      incompatible clashes groupOf x.tokens y.tokens x.entries y.entries)
    bound 0 (ofCores a)
  refineAll (fun groupOf x y => divergent groupOf (successors.getD x []) (successors.getD y []))
    bound bound apart

end Grouping

/-! ## The merged automaton -/

namespace Automaton

/-- Exchanges two elements of an array. -/
def exchange {α : Type} [Inhabited α] (xs : Array α) (i j : Nat) : Array α :=
  let x := xs.getD i default
  let y := xs.getD j default
  (xs.setIfInBounds i y).setIfInBounds j x

/-- An action with other numbers for the states. -/
def renumber (number : Nat → Nat) : Action → Action
  | .shift state repeats => .shift (number state) repeats
  | a => a

/-- Adds what a state does to what the states before it in a group do. -/
def combine (x y : AutomatonState) : AutomatonState :=
  { core := x.core
    tokens := x.tokens.union y.tokens
    actions := x.actions.mapIdx fun t as => if as.isEmpty then y.actions.getD t [] else as
    gotos := x.gotos ++ y.gotos.filter fun (p, _) => !x.gotos.any (·.1 == p) }

/-- The state of a group. -/
def combined (states : Array AutomatonState) : List Nat → AutomatonState
  | [] => default
  | i :: rest => rest.foldl (fun s j => combine s (states.getD j default)) (states.getD i default)

/-- The automaton with the states of each group merged. The state for recovery stays the first one,
and the state for the start the second one. -/
def merged (a : Automaton) (clashes : Array IndexSet) : Automaton :=
  let gr := Grouping.ofAutomaton clashes a
  let position := fun (groups : Array (List Nat)) (s : Nat) =>
    (groups.findIdx? (·.contains s)).getD 0
  let groups := exchange gr.groups (position gr.groups 0) 0
  let groups := exchange groups (position groups 1) 1
  let numbers := (List.range groups.size).foldl
    (fun (numbers : Array Nat) i =>
      (groups.getD i []).foldl (fun numbers s => numbers.setIfInBounds s i) numbers)
    (Array.replicate a.states.size 0)
  let number := fun s => numbers.getD s 0
  { states := groups.map fun group =>
      let s := combined a.states group
      { s with
        actions := s.actions.map (·.map (renumber number))
        gotos := s.gotos.map fun (p, target) => (p, number target) }
    coreCount := a.coreCount }

/-- The automaton with a state for recovery that passes over tokens and the end of the text. -/
def recovering (a : Automaton) (tokens : IndexSet) (size : Nat) : Automaton :=
  { a with
    states := a.states.modify 0 fun s =>
      { s with
        tokens := tokens.insert size
        actions := s.actions.mapIdx fun t _ =>
          if tokens.contains t || t == size then [.recover] else [] } }

/-! ## Phrases that are only names for others -/

/-- The phrase that a state makes of any one node and does nothing else, if its nodes never
appear. -/
def renamed? {κ ρ : Type} (g : PhraseGrammar κ ρ) (relabelled : List Symbol) (s : AutomatonState) :
    Option Nat :=
  let deeds := s.actions.toList.flatten.filter fun
    | .shiftExtra => false
    | _ => true
  match deeds with
  | .reduce p _ _ _ :: _ =>
    let isName := deeds.all fun
      | .reduce q count weight shape => q == p && count == 1 && weight == 0 && shape == 0
      | _ => false
    let isHidden := ((g.phrases[p]?).map fun p => p.status == .hidden || p.status == .spliced).getD
      false
    if isName && isHidden && !relabelled.contains (.phrase p) then some p else none
  | _ => none

/-- The state that a state leads to in the end, if it only renames, in at most `fuel` steps. -/
def beyond (renamed : Array (Option Nat)) (gotos : List (Nat × Nat)) : Nat → Nat → Nat
  | 0, target => target
  | fuel + 1, target =>
    match (renamed[target]?).join with
    | none => target
    | some p =>
      match gotos.find? (·.1 == p) with
      | some (_, next) => if next == target then target else beyond renamed gotos fuel next
      | none => target

/-- The automaton that passes over states that only rename. -/
def shortcut {κ ρ : Type} (a : Automaton) (g : PhraseGrammar κ ρ) : Automaton :=
  let relabelled := g.phrases.toList.flatMap fun p =>
    p.productions.flatMap fun q =>
      q.steps.filterMap fun s => if s.shownKind.isSome then some s.symbol else none
  let renamed := a.states.map (renamed? g relabelled)
  { a with
    states := a.states.map fun s =>
      let target := beyond renamed s.gotos (g.phrases.size + 1)
      { s with
        actions := s.actions.map (·.map (renumber target))
        gotos := s.gotos.map fun (p, t) => (p, target t) } }

/-- The states that a state leads to. -/
def leadsTo (s : AutomatonState) : List Nat :=
  s.gotos.map Prod.snd ++ s.actions.toList.flatten.filterMap fun
    | .shift target _ => some target
    | _ => none

/-- The states that can be reached from some states, in at most `fuel` steps. -/
def spread (states : Array AutomatonState) : Nat → List Nat → Array Bool → Array Bool
  | 0, _, seen => seen
  | _, [], seen => seen
  | fuel + 1, i :: waiting, seen =>
    let next := Rule.distinct
      ((leadsTo (states.getD i default)).filter fun t => !seen.getD t true)
    spread states fuel (next ++ waiting)
      (next.foldl (fun seen t => seen.setIfInBounds t true) seen)

/-- For each state, whether it can be reached. -/
def reachable (a : Automaton) : Array Bool :=
  let seen := ((Array.replicate a.states.size false).setIfInBounds 0 true).setIfInBounds 1 true
  spread a.states (a.states.size + 1) [0, 1] seen

end Automaton

end SuiteLint.Parsing
