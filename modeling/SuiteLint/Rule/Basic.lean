import SuiteLint.Complaint
import SuiteLint.Pos.PresentSimple
import SuiteLint.Suppression

/-!
# Rules

A rule has an identifier and checks either a class or each case of a class. What rules share in one
analysis is their context: the model that names are tagged with, and the parents that test classes
may have.
-/

namespace SuiteLint

/-- What the rules of an analysis share. -/
structure Context where
  /-- The lexicon, or why there is none. -/
  model : Except String Pos.Lexicon
  allowedParents : OrderedSet String

namespace Context

/-- The parents that are always allowed. -/
def defaultParents : List String := ["Object", "java.lang.Object"]

/-- A context with a model and parents beyond the usual ones. -/
def new (model : Except String Pos.Lexicon) (parents : List String) : Context :=
  { model, allowedParents := (OrderedSet.ofList defaultParents).insertAll parents }

/-- Whether a parent is allowed, by its full or by its simple name. -/
def allowsParent (context : Context) (parent : String) : Bool :=
  context.allowedParents.contains parent
    || context.allowedParents.contains (Text.simpleName parent)

end Context

/-- What a rule checks, and how. -/
inductive Check where
  /-- Messages about a class, each with the case that it concerns, if it concerns one. -/
  | ofClass (messages : Context → TestClass → List (Option TestCase × String))
  /-- Messages about a case of a class. -/
  | ofCase (messages : Context → TestCase → List String)

/-- A rule with its identifier. -/
structure Rule where
  id : String
  description : String
  check : Check

namespace Rule

/-- Whether a rule checks classes. -/
def isClassRule (r : Rule) : Bool :=
  match r.check with
  | .ofClass _ => true
  | .ofCase _ => false

/-- What a rule checks, in one word. -/
def scopeName (r : Rule) : String := if r.isClassRule then "class" else "case"

/-- The complaint that a message of a class rule makes. -/
def classComplaint (r : Rule) (c : TestClass) : Option TestCase × String → Complaint
  | (some k, message) => Complaint.onCase r.id c k message
  | (none, message) => Complaint.onClass r.id c message

/-- The complaints of a rule about a class that is not suppressed, cases included. -/
def complaints (r : Rule) (context : Context) (everywhere : OrderedSet String) (c : TestClass) :
    List Complaint :=
  match r.check with
  | .ofClass messages =>
    if Suppression.silences everywhere c.suppressed r.id then []
    else (messages context c).map (r.classComplaint c)
  | .ofCase messages =>
    c.cases.flatMap fun k =>
      if Suppression.silences everywhere k.suppressed r.id then []
      else (messages context k).map (Complaint.onCase r.id c k)

end Rule

end SuiteLint
