import Std.Data.ExtTreeMap
import Activation.Rule

/-!
# Definitions of units

The definition of a unit says in full what the metadata index only summarises:
the rules it declares, its place among other units, and the beans it provides
once it is accepted.  A catalog holds one definition for each name; of two with
the same name the later counts.
-/

namespace Activation

/-- What a unit declares. -/
structure Definition where
  /-- The name of the unit. -/
  name : UnitName
  /-- The conditions under which it is accepted. -/
  rules : List Rule := []
  /-- Its precedence; units with a lower number come earlier. -/
  order : Option Int32 := none
  /-- The units that it precedes. -/
  before : List UnitName := []
  /-- The units that it follows. -/
  after : List UnitName := []
  /-- The beans that it provides. -/
  provides : List Bean := []
  deriving DecidableEq

namespace Definition

/-- The definition of a unit that declares nothing. -/
def named (name : UnitName) : Definition := { name }

/-- A definition with a further rule. -/
def withRule (definition : Definition) (rule : Rule) : Definition :=
  { definition with rules := definition.rules ++ [rule] }

/-- A definition with another precedence. -/
def withOrder (definition : Definition) (order : Int32) : Definition :=
  { definition with order := some order }

/-- A definition of a unit that precedes a further unit. -/
def preceding (definition : Definition) (unit : UnitName) : Definition :=
  { definition with before := definition.before ++ [unit] }

/-- A definition of a unit that follows a further unit. -/
def following (definition : Definition) (unit : UnitName) : Definition :=
  { definition with after := definition.after ++ [unit] }

/-- A definition of a unit that provides a further bean. -/
def providing (definition : Definition) (bean : Bean) : Definition :=
  { definition with provides := definition.provides ++ [bean] }

/-- The beans that a unit provides; none if it has no definition. -/
def providedBy (definition : Option Definition) : List Bean :=
  (definition.map provides).getD []

/-- Whether a unit is accepted without conditions. -/
def isUnconditional (definition : Definition) : Bool :=
  definition.rules.isEmpty

end Definition

/-- The definitions of units, by their names. -/
abbrev Catalog := Std.ExtTreeMap UnitName Definition

namespace Catalog

/-- A catalog with a further definition. -/
def put (catalog : Catalog) (definition : Definition) : Catalog :=
  catalog.insert definition.name definition

/-- The catalog of the given definitions. -/
def ofDefinitions (definitions : List Definition) : Catalog :=
  definitions.foldl put ∅

end Catalog
end Activation
