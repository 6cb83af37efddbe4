import Activation.Failure
import Activation.Order.Component

/-!
# The order of accepted units

Accepted units are first sorted by their precedence, those of the same precedence
staying as they were.  Then a walk over their prerequisites pulls a unit forward
where another one must follow it, and nowhere else.

The order fails if a precedence cannot be read, and otherwise if the units wait
for each other in a circle.
-/

namespace Activation
namespace Order

/-- Units with their hints, sorted by precedence. -/
def byPrecedence (hinted : List (UnitName × Hints)) : List (UnitName × Hints) :=
  hinted.mergeSort fun first second => first.2.order ≤ second.2.order

/-- The order of units with hints. -/
def ofHinted (hinted : List (UnitName × Hints)) : Except Cycle (List UnitName) :=
  let units := (byPrecedence hinted).map Prod.fst
  let listed := Std.ExtTreeMap.ofList hinted
  let table := Prerequisites.ofHints units fun unit => (listed[unit]?).getD {}
  match Walk.arrange table units with
  | .ok order => .ok order
  | .error clash => .error ⟨clash.first, clash.second, table.members units clash.first⟩

/-- The order of accepted units. -/
def arrange (index : Metadata) (catalog : Catalog) (accepted : List UnitName) :
    Except Failure (List UnitName) :=
  match Hints.readAll index catalog accepted with
  | .error problem => .error (.notInteger problem)
  | .ok hinted =>
    match ofHinted hinted with
    | .error cycle => .error (.cycle cycle)
    | .ok order => .ok order

end Order
end Activation
