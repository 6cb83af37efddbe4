import Std.Data.ExtTreeMap
import Std.Data.ExtTreeSet
import Activation.Order.Hints

/-!
# Prerequisites

The hints of the units make a relation: a unit must follow every unit that it
says it follows, and every unit that says it precedes it.  Units that are not
among those to be arranged have no part in it.

The prerequisites of a unit list these units once each.  Those it names itself
come first, in the order in which it names them, and then the others, in the
order of precedence.
-/

namespace Activation

/-- The prerequisites of each unit to be arranged. -/
abbrev Prerequisites := Std.ExtTreeMap UnitName (List UnitName)

namespace Prerequisites

/-- A table with an entry under a unit, as the last one if it is new there. -/
def note (table : Prerequisites) (unit entry : UnitName) : Prerequisites :=
  let entries := (table[unit]?).getD []
  if entries.contains entry then table else table.insert unit (entries ++ [entry])

/-- Under each unit, the units that say they precede it. -/
def predecessors (units : List UnitName) (hints : UnitName → Hints) : Prerequisites :=
  units.foldl
    (fun table other => (hints other).before.foldl (fun table unit => table.note unit other) table)
    ∅

/-- The prerequisites of units in the order of their precedence. -/
def ofHints (units : List UnitName) (hints : UnitName → Hints) : Prerequisites :=
  let known := Std.ExtTreeSet.ofList units
  let declared := predecessors units hints
  Std.ExtTreeMap.ofList (units.map fun unit =>
    (unit, ((hints unit).after.filter known.contains ++ (declared[unit]?).getD []).eraseDups))

/-- The same relation read the other way: under each unit, those that must follow it. -/
def reversed (table : Prerequisites) : Prerequisites :=
  table.toList.foldl
    (fun reverse entry => entry.2.foldl (fun reverse unit => reverse.note unit entry.1) reverse)
    (table.map fun _ _ => [])

end Prerequisites
end Activation
