import Activation.Rule

/-!
# The verdict on a unit

A unit is accepted if all of its rules match.  Its rules are evaluated kind by
kind, the cheapest kind first.  All rules of a kind are evaluated even if one of
them fails, so that the report names every one of that kind; after a kind with a
failure nothing else is evaluated.
-/

namespace Activation

/-- Whether the rules of a unit match, with the outcomes of those evaluated. -/
structure Verdict where
  /-- Whether all rules match. -/
  matched : Bool
  /-- The outcomes in the order of evaluation. -/
  outcomes : List Outcome
  deriving DecidableEq, Repr

namespace Verdict

/-- The verdict on groups of outcomes: everything up to and including the first
group with a failure. -/
def ofGroups : List (List Outcome) → Verdict
  | [] => ⟨true, []⟩
  | group :: groups =>
    if group.all Outcome.matched then
      let rest := ofGroups groups
      ⟨rest.matched, group ++ rest.outcomes⟩
    else ⟨false, group⟩

/-- The rules of each kind in declared order, the cheapest kind first. -/
def grouped (rules : List Rule) : List (List Rule) :=
  Kind.byRank.map fun kind => rules.filter fun rule => rule.kind = kind

/-- The verdict on rules without faults. -/
def ofRules (context : Context) (rules : List Rule) : Verdict :=
  ofGroups ((grouped rules).map fun group => group.map (Rule.evaluate context))

/-- The verdict on the rules of a unit, or the first rule at fault. -/
def ofUnit (unit : UnitName) (rules : List Rule) (context : Context) :
    Except Malformed Verdict :=
  match rules.findSome? (Rule.malformed? unit) with
  | some problem => .error problem
  | none => .ok (ofRules context rules)

end Verdict
end Activation
