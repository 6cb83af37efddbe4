import Activation.Order.Walk

/-!
# The members of a cycle

When a walk finds a cycle, the report names not only the two units that showed
it but every unit tangled up with them: the units that are both among the
prerequisites of the first one, directly or through others, and among those that
must follow it.

A list of units to be arranged may name a unit several times.  The relation then
ties its last place to the other units, and at every other place the unit stands
by itself.  Places are searched from the front, and the search of a place also
reaches everything that must follow it.  So if the unit that showed the cycle is
repeated, the first place of it that is met may be one where it stands by itself,
and then it is the only member.
-/

namespace Activation

namespace Prerequisites

/-- The number of units of a table that are not in a set. -/
def restCount (table : Prerequisites) (found : Std.ExtTreeSet UnitName) : Nat :=
  table.keys.countP fun unit => !found.contains unit

theorem restCount_insert_le (table : Prerequisites) (found : Std.ExtTreeSet UnitName)
    (unit : UnitName) : table.restCount (found.insert unit) ≤ table.restCount found := by
  refine List.countP_mono_left fun other _ h => ?_
  simp only [Bool.not_eq_true'] at h ⊢
  grind

theorem restCount_insert_lt {table : Prerequisites} {found : Std.ExtTreeSet UnitName}
    {unit : UnitName} (hm : unit ∈ table) (h : found.contains unit = false) :
    table.restCount (found.insert unit) < table.restCount found := by
  refine Walk.countP_lt_of_imp (fun other h => ?_) (Std.ExtTreeMap.mem_keys.2 hm) ?_
    (by simp [h])
  · simp only [Bool.not_eq_true'] at h ⊢
    grind
  · simp

/-- A set of units together with everything that a table leads to from a list of
further units, as long as it leads through units outside the set. -/
def reach (table : Prerequisites) (found : Std.ExtTreeSet UnitName) (waiting : List UnitName) :
    Std.ExtTreeSet UnitName :=
  match waiting with
  | [] => found
  | unit :: waiting =>
    if found.contains unit then table.reach found waiting
    else table.reach (found.insert unit) (table.of unit ++ waiting)
termination_by (table.restCount found, waiting.length)
decreasing_by
  · exact Prod.Lex.right _ (by simp)
  · rename_i h
    by_cases hm : unit ∈ table
    · exact Prod.Lex.left _ _ (restCount_insert_lt hm (Bool.eq_false_iff.2 h))
    · refine Prod.Lex.right' _ (restCount_insert_le ..) ?_
      have hn : table[unit]? = none := Std.ExtTreeMap.getElem?_eq_none hm
      simp [of, hn]

/-- A unit with its prerequisites, direct or through others. -/
def closure (table : Prerequisites) (unit : UnitName) : Std.ExtTreeSet UnitName :=
  table.reach ∅ [unit]

/-- Whether a search from the front meets a repeated unit first at a place where
it stands by itself: no unit that is one of its prerequisites has its last place
before the first place of the unit. -/
def standsAlone (table : Prerequisites) (units : List UnitName) (unit : UnitName) : Bool :=
  let earlier := units.takeWhile (· != unit)
  let later := Std.ExtTreeSet.ofList (units.dropWhile (· != unit))
  let needed := table.closure unit
  1 < units.count unit &&
    !earlier.any fun other => !later.contains other && needed.contains other

/-- The units reported as members of the cycle that a unit showed, in the order
of their precedence. -/
def members (table : Prerequisites) (units : List UnitName) (unit : UnitName) : List UnitName :=
  if table.standsAlone units unit then units.filter (· == unit)
  else
    let needed := table.closure unit
    let following := table.reversed.closure unit
    units.filter fun other => needed.contains other && following.contains other

end Prerequisites
end Activation
