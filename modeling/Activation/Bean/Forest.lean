import Activation.Bean.Registry

/-!
# Scopes that share their ancestors

Several scopes may lie within one scope, and what is registered in the outer one
is seen from all of them.  A forest keeps every scope once, numbered in the order
of their making, each with the number of the scope around it.  The registry seen
from a scope is read off by following these numbers outward; a scope is made
after the one around it, so the numbers go down and the walk ends.
-/

namespace Activation

/-- Scopes, each with the number of the scope around it. -/
structure Forest where
  /-- The scopes in the order of their making. -/
  nodes : List (Scope × Option Nat) := []

namespace Forest

/-- A forest with a further scope that nothing encloses. -/
def plant (forest : Forest) (scope : Scope) : Forest :=
  ⟨forest.nodes ++ [(scope, none)]⟩

/-- A forest with a further, empty scope within a scope of a given number. -/
def grow (forest : Forest) (outer : Nat) : Forest :=
  ⟨forest.nodes ++ [(({} : Scope), some outer)]⟩

/-- The scope of a given number and those around it, the innermost first. -/
def scopesFrom (forest : Forest) (number : Nat) : List Scope :=
  match forest.nodes[number]? with
  | none => []
  | some (scope, none) => [scope]
  | some (scope, some outer) =>
    if outer < number then scope :: forest.scopesFrom outer else [scope]
termination_by number

/-- The registry seen from the scope of a given number. -/
def registryAt (forest : Forest) (number : Nat) : Registry :=
  .ofScopes (forest.scopesFrom number)

/-- Whether the scope of a given number lies within another. -/
def hasOuter (forest : Forest) (number : Nat) : Bool :=
  (forest.nodes[number]?).any (·.2.isSome)

/-- A forest with beans registered in the scope of a given number, in order. -/
def registerAll (forest : Forest) (number : Nat) (beans : List Bean) : Forest :=
  ⟨forest.nodes.modify number fun node => (node.1.registerAll beans, node.2)⟩

/-- The scopes in the order of their making. -/
def scopes (forest : Forest) : List Scope :=
  forest.nodes.map Prod.fst

end Forest
end Activation
