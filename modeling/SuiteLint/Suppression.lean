import SuiteLint.OrderedSet
import SuiteLint.Text.Split

/-!
# Suppressions

A suppression value silences the rule that it names, with or without the alias in front of the name.
-/

namespace SuiteLint.Suppression

/-- The alias that may stand in front of the name of a rule. -/
def aliasMark : String := "JTCOP."

/-- Whether a value names a rule. -/
def names (value rule : String) : Bool :=
  value == rule || Text.stripFront? aliasMark value == some rule

/-- Whether some value of a set names a rule. -/
def covers (values : OrderedSet String) (rule : String) : Bool :=
  values.toList.any fun value => names value rule

/-- Whether a rule is silenced for a target: everywhere, or by the values of the target. -/
def silences (everywhere target : OrderedSet String) (rule : String) : Bool :=
  covers everywhere rule || covers target rule

end SuiteLint.Suppression
