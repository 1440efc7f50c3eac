import SuiteLint.Parsing.Item
import Std.Data.HashMap

/-!
# The automaton of a grammar

A state of the automaton is a set of items, each with the tokens that may follow it. For every token
a state says what to do: shift it, or put the steps of a finished production together, or both where
the grammar leaves the choice open. Ranks and sides settle most of these choices here.
-/

namespace SuiteLint.Parsing

/-- What a parser does when it sees a token. -/
inductive Action where
  /-- Takes the token and goes to a state. A shift that `repeats` only regroups a repetition. -/
  | shift (state : Nat) (repeats : Bool)
  /-- Takes a token that may stand anywhere. -/
  | shiftExtra
  /-- Makes a node of a phrase from the last `count` nodes. -/
  | reduce (phrase count : Nat) (weight : Int) (shape : Nat)
  /-- Ends with a whole text. -/
  | accept
  /-- Passes over the token, in search of a state that takes it. -/
  | recover
deriving Repr, BEq, Inhabited

/-- Whether an action is a shift of a token that may not stand anywhere. -/
def Action.isShift : Action → Bool
  | shift _ _ => true
  | _ => false

/-- A state of the automaton. -/
structure AutomatonState where
  /-- The number that states with the same items share. -/
  core : Nat
  /-- The tokens for which there is something to do. -/
  tokens : IndexSet
  /-- For each token, and behind them for the end of the text, what to do. -/
  actions : Array (List Action)
  /-- For each phrase that may have been read here, the state behind it. -/
  gotos : List (Nat × Nat)
deriving Inhabited

/-! ## Choices -/

/-- What to do for a token, while it is being settled. -/
structure Choice where
  actions : List Action := []
  /-- The rank of the reductions. -/
  rank : Option Int := none
  hasLeft : Bool := false
  hasRight : Bool := false
  hasNoSide : Bool := false
  /-- Whether there is more than one action. -/
  isOpen : Bool := false
deriving Inhabited

namespace Choice

/-- How two ranks compare; a missing one is zero. -/
def compareRanks (a b : Option Int) : Ordering := compare (a.getD 0) (b.getD 0)

/-- Notes the rank and the side of a reduction. -/
def noteItem (c : Choice) (item : Item) : Choice :=
  match item.side with
  | some .left => { c with rank := item.rank, hasLeft := true }
  | some .right => { c with rank := item.rank, hasRight := true }
  | none => { c with rank := item.rank, hasNoSide := true }

/-- Adds the reduction of a finished item. Of several reductions those of the highest rank stay. -/
def addReduction (c : Choice) (action : Action) (item : Item) : Choice :=
  if c.actions.isEmpty then { c with actions := [action] }.noteItem item
  else
    match compareRanks item.rank c.rank with
    | .gt => { actions := [action] : Choice }.noteItem item
    | .eq => { c with actions := c.actions ++ [action], isOpen := true }.noteItem item
    | .lt => c

/-- Adds a shift. -/
def addShift (c : Choice) (state : Nat) : Choice :=
  { c with
    actions := c.actions ++ [.shift state false]
    isOpen := c.isOpen || !c.actions.isEmpty }

/-- The actions without the shift at their end. -/
def withoutShift (c : Choice) : List Action := c.actions.dropLast

/-- The shift at the end of the actions. -/
def onlyShift (c : Choice) : List Action := c.actions.getLast?.toList

/-- The actions with the shift at their end marked as a regrouping. -/
def regrouped (c : Choice) : List Action :=
  match c.actions.getLast? with
  | some (.shift state _) => c.actions.dropLast ++ [.shift state true]
  | _ => c.actions

/-- Settles a choice between a shift, of items with some ranks, and reductions: by rank, then by
side. -/
def settleShift (c : Choice) (shiftRanks : List (Option Int)) : List Action :=
  let isMore := shiftRanks.any fun r => compareRanks r c.rank == .gt
  let isLess := shiftRanks.any fun r => compareRanks r c.rank == .lt
  if isMore && !isLess then c.onlyShift
  else if isLess && !isMore then c.withoutShift
  else if isMore && isLess then c.actions
  else if c.hasLeft && !c.hasNoSide && !c.hasRight then c.withoutShift
  else if c.hasRight && !c.hasNoSide && !c.hasLeft then c.onlyShift
  else c.actions

end Choice

/-! ## Building -/

/-- An automaton that is being built. -/
structure AutomatonDraft where
  /-- The items that each state starts from. -/
  kernels : Array Items.Entries := #[]
  cores : Array Nat := #[]
  index : Std.HashMap Items.Entries Nat := {}
  coreIndex : Std.HashMap (List Nat) Nat := {}
  /-- The finished states. -/
  states : Array AutomatonState := #[]
deriving Inhabited

namespace AutomatonDraft

variable {κ ρ : Type} [Numbered κ] [Numbered ρ] [BEq κ] [BEq ρ]

/-- The number of the state that starts from some items. -/
def stateFor (d : AutomatonDraft) (kernel : Items.Entries) : Nat × AutomatonDraft :=
  match d.index[kernel]? with
  | some i => (i, d)
  | none =>
    let i := d.kernels.size
    let items := kernel.map Prod.fst
    let core := d.coreIndex.getD items d.coreIndex.size
    (i, { d with
      kernels := d.kernels.push kernel
      cores := d.cores.push core
      index := d.index.insert kernel i
      coreIndex := d.coreIndex.insert items core })

/-- The items behind each token and behind each phrase. -/
def successors (is : Items κ ρ) (tokenCount phraseCount : Nat) (closure : Items.Entries) :
    Array Items.Entries × Array Items.Entries :=
  closure.foldl
    (fun (byToken, byPhrase) (i, lookaheads) =>
      match is.items[i]? with
      | some item =>
        match item.next with
        | some (.token t) =>
          (byToken.modify t (Items.mergeEntries [(item.successor, lookaheads)]), byPhrase)
        | some (.phrase p) =>
          (byToken, byPhrase.modify p (Items.mergeEntries [(item.successor, lookaheads)]))
        | none => (byToken, byPhrase)
      | none => (byToken, byPhrase))
    (Array.replicate tokenCount [], Array.replicate phraseCount [])

/-- The reductions of a state. -/
def reductions (is : Items κ ρ) (tokenCount : Nat) (closure : Items.Entries) : Array Choice :=
  closure.foldl
    (fun choices (i, lookaheads) =>
      match is.items[i]? with
      | some item =>
        if item.next.isSome then choices
        else
          let action :=
            match item.phrase with
            | some p => .reduce p item.dot item.weight item.shape
            | none => .accept
          lookaheads.toList.foldl
            (fun choices t => choices.modify t (·.addReduction action item)) choices
      | none => choices)
    (Array.replicate (tokenCount + 1) {})

/-- Adds the shifts of a state. -/
def addShifts (byToken : Array Items.Entries) (d : AutomatonDraft) (choices : Array Choice) :
    AutomatonDraft × Array Choice :=
  (List.range byToken.size).foldl
    (fun (d, choices) t =>
      match byToken.getD t [] with
      | [] => (d, choices)
      | kernel =>
        let (state, d) := d.stateFor kernel
        (d, choices.modify t (·.addShift state)))
    (d, choices)

/-- Adds the states behind the phrases of a state. -/
def addGotos (byPhrase : Array Items.Entries) (d : AutomatonDraft) :
    AutomatonDraft × List (Nat × Nat) :=
  let (d, gotos) := (List.range byPhrase.size).foldl
    (fun (d, gotos) p =>
      match byPhrase.getD p [] with
      | [] => (d, gotos)
      | kernel =>
        let (state, d) := d.stateFor kernel
        (d, (p, state) :: gotos))
    (d, ([] : List (Nat × Nat)))
  (d, gotos.reverse)

/-- Whether an item of a closure is about to take a token after having read something. -/
def takes (is : Items κ ρ) (t : Nat) (item : Item) : Bool :=
  match item.next with
  | some s => 0 < item.dot && (PhraseGrammar.tokensIn is.firstTokens s).contains t
  | none => false

/-- Settles what to do for a token. -/
def settle (g : PhraseGrammar κ ρ) (is : Items κ ρ) (closure : Items.Entries) (t : Nat)
    (c : Choice) : List Action :=
  if !c.isOpen then c.actions
  else if !(c.actions.getLast?.any Action.isShift) then c.actions
  else
    let involved := closure.filterMap fun (i, lookaheads) =>
      match is.items[i]? with
      | some item =>
        if takes is t item || (item.next.isNone && lookaheads.contains t) then some item else none
      | none => none
    let shiftRanks := (involved.filter (takes is t)).map Item.rank
    let phrases := involved.filterMap Item.phrase
    let isRegrouping :=
      match phrases with
      | [] => false
      | p :: rest => ((g.phrases[p]?).map Phrase.isRepetition).getD false && rest.all (· == p)
    if isRegrouping then c.regrouped else c.settleShift shiftRanks

/-- Lets a state take the tokens that may stand anywhere. -/
def addExtras (extras : List Nat) (actions : Array (List Action)) : Array (List Action) :=
  extras.foldl
    (fun actions t => actions.modify t fun as => if as.isEmpty then [.shiftExtra] else as) actions

/-- The tokens for which there is something to do. -/
def tokensOf (actions : Array (List Action)) : IndexSet :=
  IndexSet.ofList ((List.range actions.size).filter fun t => !(actions.getD t []).isEmpty)

/-- Finishes the next state. -/
def finishNext (g : PhraseGrammar κ ρ) (is : Items κ ρ) (d : AutomatonDraft) : AutomatonDraft :=
  let id := d.states.size
  let core := d.cores.getD id 0
  match d.kernels.getD id [] with
  | [] =>
    let actions := Array.replicate (g.lexemes.size + 1) []
    { d with states := d.states.push { core, tokens := ∅, actions, gotos := [] } }
  | kernel =>
    let closure := is.closure kernel
    let (byToken, byPhrase) := successors is g.lexemes.size g.phrases.size closure
    let choices := reductions is g.lexemes.size closure
    let (d, choices) := addShifts byToken d choices
    let (d, gotos) := addGotos byPhrase d
    let actions := addExtras g.extras (choices.mapIdx (settle g is closure))
    { d with states := d.states.push { core, tokens := tokensOf actions, actions, gotos } }

/-- Finishes all states, in at most `fuel` steps. -/
def finish (g : PhraseGrammar κ ρ) (is : Items κ ρ) : Nat → AutomatonDraft → AutomatonDraft
  | 0, d => d
  | fuel + 1, d =>
    if d.states.size < d.kernels.size then finish g is fuel (d.finishNext g is) else d

end AutomatonDraft

/-- The automaton of a grammar. -/
structure Automaton where
  /-- The states: the first one is for recovery, the second one for the start. -/
  states : Array AutomatonState
  coreCount : Nat
deriving Inhabited

namespace Automaton

variable {κ ρ : Type} [Numbered κ] [Numbered ρ] [BEq κ] [BEq ρ]

/-- A bound on the number of states. -/
def stateBound : Nat := 1000000

/-- The automaton of a grammar. -/
def ofGrammar (g : PhraseGrammar κ ρ) (is : Items κ ρ) : Automaton :=
  let (_, d) := ({} : AutomatonDraft).stateFor []
  let (_, d) := d.stateFor [(is.start, .singleton g.lexemes.size)]
  let d := d.finish g is stateBound
  { states := d.states, coreCount := d.coreIndex.size }

end Automaton

end SuiteLint.Parsing
