/-!
# The names of units

A configuration unit is known by a dotted name, compared character by character.
The short name, for compact diagnostics, is what follows the last dot.
-/

namespace Activation

/-- The name of a configuration unit. -/
abbrev UnitName := String

/-- Lists of names are compared name by name. -/
instance : LawfulBEq (List UnitName) := inferInstance

namespace UnitName

/-- The part of a name after its last dot; the whole name if it has no dot. -/
def shortName (unit : UnitName) : String :=
  String.ofList (unit.toList.reverse.takeWhile (· != '.')).reverse

end UnitName
end Activation
