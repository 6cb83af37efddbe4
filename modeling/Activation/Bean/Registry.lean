import Activation.Bean

/-!
# The bean registry

Beans are registered in scopes.  A scope holds at most one bean of each name, in
the order in which the names were first registered; registering a name again
replaces the bean and keeps its place.

A registry is a current scope together with the scopes that enclose it, the
nearest first.  A look-up that includes the ancestors lists the names of the
current scope first and then those that the ancestors add.  A bean hides the
beans of its name further out only where one bean must be chosen, as when asked
whether a name is primary: a listing by type or annotation looks at each scope by
itself.
-/

namespace Activation

/-- Beans with distinct names, in the order of their first registration. -/
structure Scope where
  /-- The beans of the scope. -/
  beans : List Bean := []
  /-- No two beans share a name. -/
  distinct : (beans.map Bean.name).Nodup := by exact List.nodup_nil
  deriving DecidableEq

namespace Scope

/-- The bean of a given name. -/
def bean? (scope : Scope) (name : BeanName) : Option Bean :=
  scope.beans.find? (·.name == name)

/-- Whether there is a bean of a given name. -/
def contains (scope : Scope) (name : BeanName) : Bool :=
  scope.beans.any (·.name == name)

/-- The names of the beans with a property, in order. -/
def names (scope : Scope) (p : Bean → Bool) : List BeanName :=
  (scope.beans.filter p).map Bean.name

/-- The bean itself where a bean of its name stands, any other bean where it is. -/
def replace (bean : Bean) (beans : List Bean) : List Bean :=
  beans.map fun old => if old.name = bean.name then bean else old

theorem map_name_replace (bean : Bean) (beans : List Bean) :
    (replace bean beans).map Bean.name = beans.map Bean.name := by
  rw [replace, List.map_map]
  refine List.map_congr_left fun old _ => ?_
  by_cases h : old.name = bean.name <;> simp [h]

/-- A scope with a bean registered: in the place of the bean of its name if there
is one, and otherwise at the end. -/
def register (scope : Scope) (bean : Bean) : Scope :=
  if h : bean.name ∈ scope.beans.map Bean.name then
    ⟨replace bean scope.beans, by rw [map_name_replace]; exact scope.distinct⟩
  else
    ⟨scope.beans ++ [bean], by
      rw [List.map_append, List.nodup_append]
      refine ⟨scope.distinct, by simp, ?_⟩
      intro a ha b hb
      rw [List.map_singleton, List.mem_singleton] at hb
      rintro rfl
      exact h (hb ▸ ha)⟩

/-- A scope with several beans registered, in order. -/
def registerAll (scope : Scope) (beans : List Bean) : Scope :=
  beans.foldl register scope

/-- The scope in which the given beans have been registered, in order. -/
def ofList (beans : List Bean) : Scope :=
  registerAll {} beans

/-- The number of beans. -/
def size (scope : Scope) : Nat :=
  scope.beans.length

/-- Whether there is no bean. -/
def isEmpty (scope : Scope) : Bool :=
  scope.beans.isEmpty

end Scope

/-- Which scopes of a registry a condition searches. -/
inductive Search where
  /-- The current scope alone. -/
  | current
  /-- The scopes that enclose the current one. -/
  | ancestors
  /-- The current scope and all that enclose it. -/
  | all
  deriving DecidableEq, Repr

namespace Search

/-- Every way to search. -/
def choices : List Search := [current, ancestors, all]

/-- The word for a way to search. -/
def word : Search → String
  | current => "current"
  | ancestors => "ancestors"
  | all => "all"

/-- The way to search with a given word, spelled exactly. -/
def ofWord? (word : String) : Option Search :=
  choices.find? (·.word == word)

/-- Whether a search looks beyond a single scope. -/
def looksOutward (search : Search) : Bool :=
  search != current

@[simp] theorem ofWord?_word (search : Search) : ofWord? search.word = some search := by
  cases search <;> decide

end Search

/-- A current scope within the scopes that enclose it. -/
structure Registry where
  /-- The innermost scope, into which accepted units register. -/
  current : Scope := {}
  /-- The enclosing scopes, the nearest first. -/
  ancestors : List Scope := []
  deriving DecidableEq

namespace Registry

/-- The names of the beans with a property: those of the first scope, followed by
those that the further scopes add. -/
def names (p : Bean → Bool) : List Scope → List BeanName
  | [] => []
  | scope :: outer =>
    let own := scope.names p
    own ++ (names p outer).filter fun name => !own.contains name

/-- Whether one of the scopes has a bean of a given name. -/
def defines (scopes : List Scope) (name : BeanName) : Bool :=
  scopes.any (·.contains name)

/-- The bean of a given name in the first scope that has one. -/
def nearest? (scopes : List Scope) (name : BeanName) : Option Bean :=
  scopes.findSome? (·.bean? name)

/-- The scopes of a look-up that does or does not include the ancestors. -/
def scopes (registry : Registry) (outward : Bool) : List Scope :=
  if outward then registry.current :: registry.ancestors else [registry.current]

/-- The scopes that a condition searches. -/
def searched (registry : Registry) : Search → List Scope
  | .current => [registry.current]
  | .ancestors => registry.ancestors
  | .all => registry.current :: registry.ancestors

/-- The names of the beans of a type. -/
def ofType (registry : Registry) (type : String) (outward : Bool) : List BeanName :=
  names (·.hasType type) (registry.scopes outward)

/-- The names of the beans with an annotation. -/
def marked (registry : Registry) (mark : String) (outward : Bool) : List BeanName :=
  names (·.isMarked mark) (registry.scopes outward)

/-- Whether there is a bean of a given name. -/
def contains (registry : Registry) (name : BeanName) (outward : Bool) : Bool :=
  defines (registry.scopes outward) name

/-- Whether the nearest bean of a given name is marked as primary. -/
def isPrimary (registry : Registry) (name : BeanName) (outward : Bool) : Bool :=
  (nearest? (registry.scopes outward) name).any Bean.primary

/-- A registry with a bean registered in its current scope. -/
def register (registry : Registry) (bean : Bean) : Registry :=
  { registry with current := registry.current.register bean }

/-- A registry with several beans registered in its current scope, in order. -/
def registerAll (registry : Registry) (beans : List Bean) : Registry :=
  { registry with current := registry.current.registerAll beans }

/-- The registry of the given scopes, the current one first; an empty scope if
there are none. -/
def ofScopes : List Scope → Registry
  | [] => {}
  | scope :: outer => ⟨scope, outer⟩

end Registry
end Activation
