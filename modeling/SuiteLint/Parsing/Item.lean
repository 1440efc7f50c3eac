import SuiteLint.Parsing.Phrase

/-!
# Items

An item is a production with a dot that says how much of it has been read. Productions that differ
only in what has been read, and whose nodes have the same shape, share an item. The closure of some
items adds the items of all phrases that may begin behind a dot.
-/

namespace SuiteLint.Parsing

/-! ## First and last tokens -/

/-- Repeats a step until nothing changes, at most `fuel` times. -/
def untilStable {α : Type} [BEq α] (f : α → α) : Nat → α → α
  | 0, x => x
  | fuel + 1, x =>
    let y := f x
    if y == x then x else untilStable f fuel y

namespace PhraseGrammar

variable {κ ρ : Type}

/-- The tokens of a symbol, if `sets` gives those of the phrases. -/
def tokensIn (sets : Array IndexSet) : Symbol → IndexSet
  | .token i => .singleton i
  | .phrase i => sets.getD i ∅

/-- For each phrase, the tokens of the steps that `pick` chooses from its productions, through all
levels. -/
def edgeTokens (g : PhraseGrammar κ ρ) (pick : List (Step κ ρ) → Option (Step κ ρ)) :
    Array IndexSet :=
  let round := fun (sets : Array IndexSet) =>
    g.phrases.mapIdx fun i p =>
      p.productions.foldl
        (fun found q =>
          match pick q.steps with
          | some s => found.union (tokensIn sets s.symbol)
          | none => found)
        (sets.getD i ∅)
  untilStable round (g.phrases.size + 1) (Array.replicate g.phrases.size ∅)

/-- For each phrase, the tokens that it may start with. -/
def firstTokens (g : PhraseGrammar κ ρ) : Array IndexSet := g.edgeTokens List.head?

/-- For each phrase, the tokens that it may end with. -/
def lastTokens (g : PhraseGrammar κ ρ) : Array IndexSet := g.edgeTokens List.getLast?

variable [Numbered κ] [Numbered ρ]

/-- Whether a symbol is a phrase whose children stand in its place. -/
def isHidden (g : PhraseGrammar κ ρ) : Symbol → Bool
  | .token _ => false
  | .phrase i =>
    match g.phrases[i]? with
    | some p => !p.isShown
    | none => false

/-- For each phrase, the roles that its children play, those in hidden phrases included. -/
def roles (g : PhraseGrammar κ ρ) : Array IndexSet :=
  let round := fun (sets : Array IndexSet) =>
    g.phrases.mapIdx fun i p =>
      p.productions.foldl
        (fun found q =>
          q.steps.foldl
            (fun found s =>
              let own := (s.role.map fun r => IndexSet.singleton (Numbered.number r)).getD ∅
              let inner := if g.isHidden s.symbol then tokensIn sets s.symbol else ∅
              match s.symbol with
              | .token _ => found.union own
              | .phrase _ => (found.union own).union inner)
            found)
        (sets.getD i ∅)
  untilStable round (g.phrases.size + 1) (Array.replicate g.phrases.size ∅)

end PhraseGrammar

/-! ## Shapes -/

/-- What a production says about a child of its nodes. -/
structure ChildShape (κ ρ : Type) where
  shownKind : Option κ
  role : Option ρ
  /-- The roles that the children of a hidden child play. -/
  inherited : IndexSet
deriving Repr, BEq, Inhabited

/-- What a production says about the children of its nodes; children at the end of which nothing is
said are left out. -/
abbrev Shape (κ ρ : Type) : Type := List (ChildShape κ ρ)

/-- The shape of the nodes of some steps. -/
def shapeOf {κ ρ : Type} [Numbered κ] [Numbered ρ] (g : PhraseGrammar κ ρ) (roles : Array IndexSet)
    (steps : List (Step κ ρ)) : Shape κ ρ :=
  let children := steps.map fun s =>
    { shownKind := s.shownKind
      role := s.role
      inherited := if g.isHidden s.symbol then PhraseGrammar.tokensIn roles s.symbol else ∅
      : ChildShape κ ρ }
  (children.reverse.dropWhile fun c =>
    c.shownKind.isNone && c.role.isNone && c.inherited.isEmpty).reverse

/-! ## Items -/

/-- An item. -/
structure Item where
  /-- The phrase that is being read; none for the whole text with its end. -/
  phrase : Option Nat
  /-- The number of steps before the dot. -/
  dot : Nat
  weight : Int
  /-- The rank of the step before the dot. -/
  rank : Option Int
  /-- The side of the step before the dot. -/
  side : Option Side
  /-- The symbol behind the dot. -/
  next : Option Symbol
  /-- The item with the dot one step further. -/
  successor : Nat
  /-- The tokens that may come behind the next symbol, unless it is the last one. -/
  follow : Option IndexSet
  /-- The number of the shape of the nodes. -/
  shape : Nat
deriving Repr, Inhabited

/-- A production with a dot, before equal ones are put together. -/
structure DottedProduction (κ ρ : Type) where
  phrase : Option Nat
  production : Production κ ρ
  dot : Nat

namespace DottedProduction

variable {κ ρ : Type} [Numbered κ] [Numbered ρ]

/-- A number for something that may be missing, which is less than any number for what is there. -/
def optionKey (x : Option Int) : List Int :=
  match x with
  | none => [0]
  | some n => [1, n]

/-- A number for a symbol: tokens come before phrases. -/
def symbolKey : Symbol → List Int
  | .token i => [0, i]
  | .phrase i => [1, i]

/-- A number for a side. -/
def sideKey (side : Option Side) : List Int :=
  optionKey (side.map fun
    | .left => 0
    | .right => 1)

/-- Numbers for what a step says about its node. -/
def nodeKey (s : Step κ ρ) : List Int :=
  optionKey (s.shownKind.map fun k => (Numbered.number k : Int))
    ++ optionKey (s.role.map fun r => (Numbered.number r : Int))

/-- Whether a step before the dot is a hidden phrase with roles inside. -/
def inheritsRoles (g : PhraseGrammar κ ρ) (roles : Array IndexSet) (p : DottedProduction κ ρ) :
    Bool :=
  (p.production.steps.take p.dot).any fun s =>
    g.isHidden s.symbol && !(PhraseGrammar.tokensIn roles s.symbol).isEmpty

/-- The numbers that tell items apart and put them in order. -/
def key (g : PhraseGrammar κ ρ) (roles : Array IndexSet) (p : DottedProduction κ ρ) : List Int :=
  let steps := p.production.steps
  let last := (steps.take p.dot).getLast?
  let inherits := p.inheritsRoles g roles
  let before := (steps.take p.dot).map fun s =>
    nodeKey s ++ (if inherits then symbolKey s.symbol else [])
  let behind := (steps.drop p.dot).map fun s =>
    symbolKey s.symbol ++ optionKey s.rank ++ sideKey s.side ++ nodeKey s
  [(p.dot : Int), ((p.phrase.getD g.phrases.size : Nat) : Int), p.production.weight,
      (steps.length : Int)]
    ++ optionKey (last.bind Step.rank) ++ sideKey (last.bind Step.side)
    ++ [if inherits then 1 else 0] ++ before.flatten ++ behind.flatten

/-- The order of keys. -/
def keyLe : List Int → List Int → Bool
  | [], _ => true
  | _ :: _, [] => false
  | x :: xs, y :: ys => if x < y then true else if y < x then false else keyLe xs ys

end DottedProduction

/-- An item that a phrase adds to a closure. -/
structure Addition where
  item : Nat
  lookaheads : IndexSet
  /-- Whether what follows the phrase may also follow the item. -/
  propagates : Bool
deriving Repr, Inhabited

/-- The items of a grammar. -/
structure Items (κ ρ : Type) where
  items : Array Item
  start : Nat
  /-- For each phrase, the items that it adds to a closure, in order. -/
  additions : Array (List Addition)
  shapes : Array (Shape κ ρ)
  firstTokens : Array IndexSet
deriving Inhabited

namespace Items

variable {κ ρ : Type} [Numbered κ] [Numbered ρ] [BEq κ] [BEq ρ]

/-- The productions of a grammar with their phrases, and at the end that of the whole text. -/
def ownedProductions (g : PhraseGrammar κ ρ) : List (Option Nat × Production κ ρ) :=
  let own := g.phrases.toList.zipIdx.flatMap fun (p, i) => p.productions.map fun q => (some i, q)
  let whole : Step κ ρ :=
    { symbol := .phrase 0, rank := none, side := none, shownKind := none, role := none }
  own ++ [(none, { steps := [whole], weight := 0 })]

/-- The productions of a grammar with all their dots. -/
def dotted (g : PhraseGrammar κ ρ) : List (DottedProduction κ ρ) :=
  (ownedProductions g).flatMap fun (phrase, production) =>
    (List.range (production.steps.length + 1)).map fun dot => { phrase, production, dot }

/-- Numbers the items: for each dotted production the number of its item, and for each item the
place of a dotted production that has it. The argument is sorted by keys. -/
def numberItems : List (List Int × Nat) → List Int → Array Nat → Array Nat →
    Array Nat × Array Nat
  | [], _, numbers, places => (numbers, places)
  | (key, place) :: rest, last, numbers, places =>
    if key == last then
      numberItems rest last (numbers.setIfInBounds place (places.size - 1)) places
    else numberItems rest key (numbers.setIfInBounds place places.size) (places.push place)

/-- The number of a shape, which is added if it is new. -/
def shapeNumber (shapes : Array (Shape κ ρ)) (s : Shape κ ρ) : Nat × Array (Shape κ ρ) :=
  match shapes.findIdx? (· == s) with
  | some i => (i, shapes)
  | none => (shapes.size, shapes.push s)

/-- The phrases that may begin a phrase: what may follow them there, and whether nothing else
does. -/
def leadingPhrases (firsts : Array IndexSet) (p : Phrase κ ρ) : List (Nat × IndexSet × Bool) :=
  p.productions.foldl
    (fun found q =>
      match q.steps with
      | { symbol := .phrase i, .. } :: rest =>
        let follow := (rest.head?.map fun s => PhraseGrammar.tokensIn firsts s.symbol).getD ∅
        let propagates := rest.isEmpty
        if found.any (·.1 == i) then
          found.map fun (j, f, b) =>
            if j == i then (j, f.union follow, b || propagates) else (j, f, b)
        else found ++ [(i, follow, propagates)]
      | _ => found)
    []

/-- What may follow each phrase that may begin a phrase, in at most `fuel` steps: the tokens and
whether also what follows the whole. -/
def spreadFollow (leading : Array (List (Nat × IndexSet × Bool))) :
    Nat → List Nat → Array (Option (IndexSet × Bool)) → Array (Option (IndexSet × Bool))
  | 0, _, known => known
  | _, [], known => known
  | fuel + 1, i :: waiting, known =>
    let (here, open_) := ((known[i]?).join).getD (∅, false)
    let (waiting, known) := (leading.getD i []).foldl
      (fun (waiting, known) (j, follow, propagates) =>
        let old := (known[j]?).join
        let (tokens, propagatesBefore) := old.getD (∅, false)
        let new := (if propagates then (tokens.union follow).union here else tokens.union follow,
          propagatesBefore || (propagates && open_))
        if old == some new then (waiting, known)
        else (j :: waiting, known.setIfInBounds j (some new)))
      (waiting, known)
    spreadFollow leading fuel waiting known

/-- A bound on the steps in which closures are prepared. -/
def spreadBound : Nat := 1000000

/-- The items that a phrase adds to a closure. `starts` gives the items of each phrase with the dot
at the front. -/
def additionsOf (leading : Array (List (Nat × IndexSet × Bool))) (starts : Array (List Nat))
    (i : Nat) : List Addition :=
  let known := spreadFollow leading spreadBound [i]
    ((Array.replicate leading.size none).setIfInBounds i (some (∅, true)))
  let all := known.toList.zipIdx.flatMap fun (info, j) =>
    match info with
    | none => []
    | some (lookaheads, propagates) =>
      (starts.getD j []).map fun item => { item, lookaheads, propagates : Addition }
  all.mergeSort fun a b => a.item ≤ b.item

/-- The items of a grammar. -/
def ofGrammar (g : PhraseGrammar κ ρ) : Items κ ρ :=
  let firsts := g.firstTokens
  let roles := g.roles
  let dotted := (dotted g).toArray
  let keyed := (dotted.toList.zipIdx.map fun (p, place) => (p.key g roles, place)).mergeSort
    fun a b => DottedProduction.keyLe a.1 b.1
  let (numbers, places) := numberItems keyed [] (Array.replicate dotted.size 0) #[]
  let (items, shapes) := places.toList.foldl
    (fun (items, shapes) place =>
      match dotted[place]? with
      | none => (items, shapes)
      | some p =>
        let steps := p.production.steps
        let last := (steps.take p.dot).getLast?
        let behind := steps.drop p.dot
        let (shape, shapes) :=
          if behind.isEmpty then shapeNumber shapes (shapeOf g roles steps) else (0, shapes)
        let item : Item :=
          { phrase := p.phrase
            dot := p.dot
            weight := p.production.weight
            rank := last.bind Step.rank
            side := last.bind Step.side
            next := behind.head?.map Step.symbol
            successor := numbers.getD (place + 1) 0
            follow := (behind.drop 1).head?.map fun s => PhraseGrammar.tokensIn firsts s.symbol
            shape }
        (items.push item, shapes))
    ((#[] : Array Item), (#[[]] : Array (Shape κ ρ)))
  let starts := dotted.toList.zipIdx.foldl
    (fun (starts : Array (List Nat)) (p, place) =>
      match p.phrase with
      | some i =>
        if p.dot == 0 then starts.modify i (numbers.getD place 0 :: ·) else starts
      | none => starts)
    (Array.replicate g.phrases.size [])
  let leading := g.phrases.map (leadingPhrases firsts)
  let start := dotted.toList.zipIdx.foldl
    (fun found (p, place) =>
      if p.phrase.isNone && p.dot == 0 then numbers.getD place 0 else found)
    0
  { items
    start
    additions := (Array.range g.phrases.size).map (additionsOf leading starts)
    shapes
    firstTokens := firsts }

/-! ## Closures -/

/-- Items with the tokens that may follow them, in order of the items. -/
abbrev Entries : Type := List (Nat × IndexSet)

/-- Puts two lists of items together. -/
def mergeEntries : Entries → Entries → Entries
  | [], ys => ys
  | xs, [] => xs
  | (i, s) :: xs, (j, t) :: ys =>
    if i < j then (i, s) :: mergeEntries xs ((j, t) :: ys)
    else if j < i then (j, t) :: mergeEntries ((i, s) :: xs) ys
    else (i, s.union t) :: mergeEntries xs ys
termination_by xs ys => xs.length + ys.length

/-- The items that a phrase adds before tokens that may follow it. -/
def expand (is : Items κ ρ) (phrase : Nat) (follow : IndexSet) : Entries :=
  (is.additions.getD phrase []).map fun a =>
    (a.item, if a.propagates then a.lookaheads.union follow else a.lookaheads)

/-- The closure of some items. -/
def closure (is : Items κ ρ) (kernel : Entries) : Entries :=
  kernel.foldl
    (fun found (i, lookaheads) =>
      match is.items[i]? with
      | some item =>
        match item.next with
        | some (.phrase p) => mergeEntries (is.expand p (item.follow.getD lookaheads)) found
        | _ => found
      | none => found)
    kernel

end Items

end SuiteLint.Parsing
