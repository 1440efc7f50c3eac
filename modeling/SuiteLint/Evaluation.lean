import SuiteLint.Rule.Registry

/-!
# Evaluation

Rules are run over all test classes of a project. The complaints come out sorted and without
repetitions.
-/

namespace SuiteLint

/-- The complaints of rules about one class, rule by rule. -/
def classComplaints (rules : List Rule) (context : Context) (everywhere : OrderedSet String)
    (c : TestClass) : List Complaint :=
  rules.flatMap fun r => r.complaints context everywhere c

/-- The complaints of rules about a project. -/
def evaluate (rules : List Rule) (context : Context) (everywhere : OrderedSet String)
    (p : Project) : List Complaint :=
  Complaint.arrange (p.testClasses.flatMap (classComplaints rules context everywhere))

end SuiteLint
