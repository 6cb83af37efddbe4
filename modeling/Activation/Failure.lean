import Activation.Metadata
import Activation.Rule

/-!
# Failures of a pass

A condition that does not hold is no failure, it is an outcome like any other.  A
pass fails only if it is asked for something that cannot be right: exclusions
that exclude nothing, a rule that asks for nothing, a precedence that is no
number, or an order that goes round in a circle.
-/

namespace Activation

/-- Units that cannot be put in order. -/
structure Cycle where
  /-- The unit at which the cycle was found. -/
  first : UnitName
  /-- The prerequisite of it that closed the cycle. -/
  second : UnitName
  /-- All units tangled up in the cycle. -/
  members : List UnitName
  deriving DecidableEq, Repr

/-- A cycle in words. -/
def Cycle.message (cycle : Cycle) : String :=
  "Ordering cycle detected between " ++ cycle.first ++ " and " ++ cycle.second ++
    " (cycle members: " ++ ", ".intercalate cycle.members ++ ")"

/-- Why a pass fails. -/
inductive Failure where
  /-- Exclusions that should name candidates and do not. -/
  | invalidExclusions (units : List UnitName)
  /-- A rule at fault. -/
  | malformed (problem : Malformed)
  /-- A precedence in the metadata index that is no whole number. -/
  | notInteger (problem : NotInteger)
  /-- Units that cannot be put in order. -/
  | cycle (found : Cycle)
  deriving DecidableEq, Repr

namespace Failure

/-- A failure in words. -/
def message : Failure → String
  | invalidExclusions units =>
    "The following units could not be excluded because they are not candidates:\n" ++
      "\n".intercalate (units.map fun unit => "\t- " ++ unit)
  | malformed problem => problem.message
  | notInteger problem => problem.message
  | cycle found => found.message

end Failure
end Activation
