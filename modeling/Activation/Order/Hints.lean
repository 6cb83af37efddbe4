import Activation.Catalog
import Activation.Metadata

/-!
# Hints for the order

Where a unit stands among others is declared by its precedence and by the units
it precedes and follows.  Each of the three is taken from its definition if it is
set there, and otherwise from the metadata index; a unit that declares no
precedence has precedence 0.
-/

namespace Activation

/-- What a unit declares about its place. -/
structure Hints where
  /-- The precedence; lower numbers come earlier. -/
  order : Int32 := 0
  /-- The units that it precedes. -/
  before : List UnitName := []
  /-- The units that it follows. -/
  after : List UnitName := []
  deriving DecidableEq

namespace Hints

/-- The precedence of a unit. -/
def readOrder (index : Metadata) (catalog : Catalog) (unit : UnitName) :
    Except NotInteger Int32 :=
  match catalog[unit]?.bind Definition.order with
  | some order => .ok order
  | none => (index.integer? unit Metadata.orderKey).map fun order => order.getD 0

/-- A list of units from the definition, or from the index if that list is empty. -/
def readUnits (index : Metadata) (catalog : Catalog) (unit : UnitName)
    (declared : Definition → List UnitName) (key : String) : List UnitName :=
  match (catalog[unit]?.map declared).getD [] with
  | [] => (index.items? unit key).getD []
  | units => units

/-- The hints for a unit. -/
def read (index : Metadata) (catalog : Catalog) (unit : UnitName) : Except NotInteger Hints :=
  (readOrder index catalog unit).map fun order =>
    { order
      before := readUnits index catalog unit Definition.before Metadata.beforeKey
      after := readUnits index catalog unit Definition.after Metadata.afterKey }

/-- The hints for several units, or the first precedence that cannot be read. -/
def readAll (index : Metadata) (catalog : Catalog) :
    List UnitName → Except NotInteger (List (UnitName × Hints))
  | [] => .ok []
  | unit :: units =>
    match read index catalog unit with
    | .error problem => .error problem
    | .ok hints => (readAll index catalog units).map fun rest => (unit, hints) :: rest

end Hints
end Activation
