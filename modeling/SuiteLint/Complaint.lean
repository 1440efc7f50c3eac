import SuiteLint.Suite.TestClass

/-!
# Complaints

A complaint says which rule a class or a case breaks and where. Complaints are ordered by path,
line, rule, class, method and message; a missing line or method comes first.
-/

namespace SuiteLint

/-- A broken rule. -/
structure Complaint where
  rule : String
  path : Path
  line : Option Nat
  className : String
  method : Option String
  message : String
deriving Repr, DecidableEq, Inhabited

namespace Complaint

/-- A complaint about a class. -/
def onClass (rule : String) (c : TestClass) (message : String) : Complaint :=
  { rule, path := c.path, line := c.line, className := c.name, method := none, message }

/-- A complaint about a case of a class. -/
def onCase (rule : String) (c : TestClass) (k : TestCase) (message : String) : Complaint :=
  { rule, path := c.path, line := k.line, className := c.name, method := some k.name, message }

/-- The order of optional values: nothing comes first. -/
def cmpOption {α : Type} (cmp : α → α → Ordering) : Option α → Option α → Ordering
  | none, none => .eq
  | none, some _ => .lt
  | some _, none => .gt
  | some a, some b => cmp a b

/-- The order of complaints. -/
def cmp (a b : Complaint) : Ordering :=
  (a.path.cmp b.path).then <|
  (cmpOption compare a.line b.line).then <|
  (compare a.rule b.rule).then <|
  (compare a.className b.className).then <|
  (cmpOption compare a.method b.method).then <|
  compare a.message b.message

/-- Whether a complaint may stand before another one. -/
def le (a b : Complaint) : Bool := a.cmp b != .gt

/-- Whether two complaints say the same: paths are compared by their components. -/
def same (a b : Complaint) : Bool :=
  a.rule == b.rule && a.path.same b.path && a.line == b.line && a.className == b.className
    && a.method == b.method && a.message == b.message

/-- Drops every complaint that says the same as the one before it. -/
def dropRepeats : List Complaint → List Complaint
  | [] => []
  | c :: rest => c :: go c rest
where
  /-- The complaints that are kept behind `last`. -/
  go (last : Complaint) : List Complaint → List Complaint
    | [] => []
    | c :: rest => if last.same c then go last rest else c :: go c rest

/-- Sorted complaints without repetitions. -/
def arrange (complaints : List Complaint) : List Complaint :=
  dropRepeats (complaints.mergeSort le)

/-- The place of a complaint: path and line. -/
def location (path : String) (line : Option Nat) : String :=
  match line with
  | some n => s!"{path}:{n}"
  | none => path

/-- What a complaint is about: class and method. -/
def target (c : Complaint) : String :=
  match c.method with
  | some method => s!"{c.className}.{method}"
  | none => c.className

/-- A complaint as one line of text. -/
def text (c : Complaint) : String :=
  s!"{location c.path.text c.line}: {c.target}: {c.message} ({c.rule})"

end Complaint

end SuiteLint
