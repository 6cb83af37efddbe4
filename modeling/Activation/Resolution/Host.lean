import Activation.Bean.Registry
import Activation.Catalog

/-!
# Hosts

A pass does not own the beans.  The host does: it shows the pass a registry, and
it is told of each unit at the moment of its acceptance, with its definition if
it has one.  A host that registers the beans of an accepted unit thereby makes
them visible to the conditions of later units.

A host is given by its states and by what it shows and does in each of them, so a
pass can be run with any host and leaves behind the state in which the host ends.
-/

namespace Activation

/-- What keeps the beans and is told of accepted units. -/
structure Host (σ : Type) where
  /-- The registry that the host shows. -/
  registry : σ → Registry
  /-- The state after a unit has been accepted. -/
  accept : σ → UnitName → Option Definition → σ

namespace Host

/-- The host that takes no notice. -/
def silent : Host Registry where
  registry := id
  accept registry _ _ := registry

/-- The host that registers the beans provided by accepted units. -/
def registering : Host Registry where
  registry := id
  accept registry _ definition := registry.registerAll (Definition.providedBy definition)

/-- A host that also keeps a record of the accepted units. -/
def recording {σ : Type} (host : Host σ) : Host (σ × List (UnitName × Option Definition)) where
  registry state := host.registry state.1
  accept state unit definition :=
    (host.accept state.1 unit definition, state.2 ++ [(unit, definition)])

end Host
end Activation
