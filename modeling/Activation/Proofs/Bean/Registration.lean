import Activation.Bean.Forest
import Activation.Proofs.Bean.Registry
import Activation.Proofs.Repetition
import Activation.Resolution.Host

/-!
# What a scope remembers of its history

A scope is changed in two ways.  A bean is registered in it, or it is told, as a host, of an
accepted unit, and registers the beans that the unit provides.  Whatever the history, all that
counts of it for the scope is the list of the beans that were registered there
(`Forest.getElem?_after`).  Of this list the scope remembers one bean for each name, at the place
where the name came first, and this bean is the last one of the name (`Scope.Records`).

A listing goes through the scopes from the current one outward and keeps every name at its first
place (`Registry.names_eq_eraseDups`).  So the names of the current scope come first, and those
that are added stand in the order of the scopes further out (`Registry.Lists`).

* `Scope.Records.register`, `Scope.records_registerAll`: a registration, and a history of them.
* `Forest.after_keeps`: what is known of the scopes and their listings after any history.
-/

namespace Activation

/-! ## A single scope -/

namespace Scope

variable {scope : Scope} {bean other : Bean} {registered : List Bean}

/-- The beans after a registration: the new one, and the others but for one of its name. -/
theorem mem_register :
    other ∈ (scope.register bean).beans ↔
      other = bean ∨ other ∈ scope.beans ∧ other.name ≠ bean.name := by
  rw [register]
  split
  · next h =>
    obtain ⟨old, hold, hname⟩ := List.mem_map.mp h
    show other ∈ replace bean scope.beans ↔ _
    rw [replace, List.mem_map]
    constructor
    · rintro ⟨kept, hk, rfl⟩
      by_cases hn : kept.name = bean.name
      · rw [if_pos hn]
        exact Or.inl rfl
      · rw [if_neg hn]
        exact Or.inr ⟨hk, hn⟩
    · rintro (rfl | ⟨ho, hn⟩)
      · exact ⟨old, hold, if_pos hname⟩
      · exact ⟨other, ho, if_neg hn⟩
  · next h =>
    rw [List.mem_append, List.mem_singleton, or_comm]
    refine or_congr_right ⟨fun ho => ⟨ho, fun hn => ?_⟩, And.left⟩
    exact h (hn ▸ List.mem_map_of_mem ho)

theorem map_name_register :
    (scope.register bean).beans.map Bean.name =
      if bean.name ∈ scope.beans.map Bean.name then scope.beans.map Bean.name
      else scope.beans.map Bean.name ++ [bean.name] := by
  rw [register]
  split
  · exact map_name_replace bean scope.beans
  · rw [List.map_append, List.map_singleton]

/-- **A scope records what was registered in it**: its names are those of the beans registered,
each at the place where it came first, and each of its beans is the last that was registered
under its name. -/
structure Records (scope : Scope) (registered : List Bean) : Prop where
  /-- There is one bean for each name, in the order in which the names were first registered. -/
  names_eq : scope.beans.map Bean.name = (registered.map Bean.name).eraseDups
  /-- It is the last bean that was registered under its name. -/
  last : ∀ bean ∈ scope.beans, ∃ earlier later, registered = earlier ++ bean :: later ∧
    ∀ other ∈ later, other.name ≠ bean.name

/-- **A registration is recorded.** -/
theorem Records.register (h : Records scope registered) (bean : Bean) :
    Records (scope.register bean) (registered ++ [bean]) where
  names_eq := by
    have hmem : bean.name ∈ scope.beans.map Bean.name ↔
        (registered.map Bean.name).contains bean.name = true := by
      rw [h.names_eq, List.mem_eraseDups, List.contains_iff_mem]
    rw [map_name_register, List.map_append, List.map_singleton, Repetition.eraseDups_concat,
      ← h.names_eq]
    simp only [hmem]
  last := by
    intro other ho
    rcases mem_register.mp ho with rfl | ⟨ho, hn⟩
    · exact ⟨registered, [], rfl, fun _ h => absurd h List.not_mem_nil⟩
    · obtain ⟨earlier, later, rfl, hlater⟩ := h.last other ho
      refine ⟨earlier, later ++ [bean], by simp, List.forall_mem_append.mpr ⟨hlater, ?_⟩⟩
      exact List.forall_mem_singleton.mpr hn.symm

/-- A scope records the beans that it has. -/
theorem records_beans (scope : Scope) : Records scope scope.beans where
  names_eq := (Repetition.eraseDups_eq_self scope.distinct).symm
  last := by
    intro bean hb
    obtain ⟨earlier, later, heq⟩ := List.append_of_mem hb
    refine ⟨earlier, later, heq, fun other ho hname => ?_⟩
    have hdistinct := scope.distinct
    rw [heq, List.map_append, List.map_cons, List.nodup_append, List.nodup_cons] at hdistinct
    exact hdistinct.2.1.1 (hname ▸ List.mem_map_of_mem ho)

/-- **A history of registrations is recorded**, after what was there before. -/
theorem records_registerAll (scope : Scope) (beans : List Bean) :
    Records (scope.registerAll beans) (scope.beans ++ beans) := by
  have hrun : ∀ registered scope, Records scope registered →
      Records (scope.registerAll beans) (registered ++ beans) := by
    induction beans with
    | nil =>
      intro registered scope h
      rwa [List.append_nil]
    | cons bean beans ih =>
      intro registered scope h
      rw [List.append_cons]
      exact ih (registered ++ [bean]) (scope.register bean) (h.register bean)
  exact hrun scope.beans scope (records_beans scope)

end Scope

/-! ## Listings -/

namespace Registry

variable {scopes : List Scope} {p : Bean → Bool}

/-- **A listing keeps every name at its first place**, from the current scope outward. -/
theorem names_eq_eraseDups :
    names p scopes = (scopes.flatMap fun scope => scope.names p).eraseDups := by
  induction scopes with
  | nil => rfl
  | cons scope outer ih =>
    rw [names, ih, List.flatMap_cons, List.eraseDups_append, List.removeAll,
      Repetition.eraseDups_filter, Repetition.eraseDups_eq_self Scope.nodup_names]

theorem names_sublist : (names p scopes).Sublist (scopes.flatMap fun scope => scope.names p) := by
  induction scopes with
  | nil => exact List.Sublist.refl []
  | cons scope outer ih =>
    rw [names, List.flatMap_cons]
    exact (List.Sublist.refl _).append (List.filter_sublist.trans ih)

/-- **What a listing is** of the beans with a property, with or without the ancestors. -/
structure Lists (registry : Registry) (outward : Bool) (p : Bean → Bool)
    (listing : List BeanName) : Prop where
  /-- No name comes twice. -/
  nodup : listing.Nodup
  /-- The names of the current scope come first, in its order, and those that are added come from
  the ancestors, in their order. -/
  eq_append : ∃ added, listing = registry.current.names p ++ added ∧
    added.Sublist ((if outward then registry.ancestors else []).flatMap fun scope => scope.names p)
  /-- Every name of the scopes comes, and where it is first found. -/
  eq_eraseDups : listing = ((registry.scopes outward).flatMap fun scope => scope.names p).eraseDups
  /-- Every name is one that the same look-up contains. -/
  contains : ∀ name ∈ listing, registry.contains name outward = true

theorem lists_names (registry : Registry) (outward : Bool) (p : Bean → Bool) :
    Lists registry outward p (names p (registry.scopes outward)) where
  nodup := nodup_names
  eq_append := by
    have hscopes : registry.scopes outward =
        registry.current :: if outward then registry.ancestors else [] := by
      cases outward <;> rfl
    rw [hscopes, names]
    exact ⟨_, rfl, List.filter_sublist.trans names_sublist⟩
  eq_eraseDups := names_eq_eraseDups
  contains := by
    intro name hn
    obtain ⟨scope, hs, bean, hb, hname, -⟩ := mem_names.mp hn
    exact defines_iff.mpr ⟨scope, hs, bean, hb, hname, trivial⟩

end Registry

/-! ## Scopes within scopes -/

/-- **What is done to a registry**: a bean is registered in its current scope, or it is told, as
a host, of an accepted unit. -/
inductive Registration where
  /-- The registration of a bean. -/
  | bean (bean : Bean)
  /-- The acceptance of a unit, with its definition if it has one. -/
  | acceptance (unit : UnitName) (definition : Option Definition)

namespace Registration

/-- A registry after a registration. -/
def performOn (registry : Registry) : Registration → Registry
  | bean given => registry.register given
  | acceptance unit definition => Host.registering.accept registry unit definition

/-- The beans of a registration. -/
def beans : Registration → List Bean
  | bean given => [given]
  | acceptance _ definition => Definition.providedBy definition

theorem performOn_eq (registry : Registry) (registration : Registration) :
    registration.performOn registry = registry.registerAll registration.beans := by
  cases registration <;> rfl

end Registration

namespace Forest

variable {forest : Forest} {number : Nat} {scope : Scope} {outer : Option Nat}

/-- A forest after a registration in the registry seen from the scope of a given number. -/
def perform (forest : Forest) (number : Nat) (registration : Registration) : Forest :=
  ⟨forest.nodes.modify number fun node =>
    ((registration.performOn (forest.registryAt number)).current, node.2)⟩

/-- **A forest after a history** of registrations, each in the scope of a given number. -/
def after (forest : Forest) (history : List (Nat × Registration)) : Forest :=
  history.foldl (fun forest entry => forest.perform entry.1 entry.2) forest

/-- The beans that are registered in the scope of a given number in the course of a history. -/
def registeredIn (number : Nat) (history : List (Nat × Registration)) : List Bean :=
  (history.filter fun entry => entry.1 = number).flatMap fun entry => entry.2.beans

/-- The scopes around a scope, of which the number and that of the scope around it are given. -/
def scopesAround (forest : Forest) (number : Nat) : Option Nat → List Scope
  | none => []
  | some around => if around < number then forest.scopesFrom around else []

/-- The scopes seen from a scope are the scope itself and those around it. -/
theorem scopesFrom_eq_cons (h : forest.nodes[number]? = some (scope, outer)) :
    forest.scopesFrom number = scope :: forest.scopesAround number outer := by
  rw [scopesFrom, h]
  cases outer with
  | none => rfl
  | some around =>
    show (if around < number then scope :: forest.scopesFrom around else [scope]) =
      scope :: if around < number then forest.scopesFrom around else []
    split <;> rfl

theorem scopesFrom_eq_nil (h : forest.nodes[number]? = none) : forest.scopesFrom number = [] := by
  rw [scopesFrom, h]

theorem registryAt_eq (h : forest.nodes[number]? = some (scope, outer)) :
    forest.registryAt number = ⟨scope, forest.scopesAround number outer⟩ := by
  rw [registryAt, scopesFrom_eq_cons h]
  rfl

/-- A registration is made in the scope of the number and in no other. -/
theorem perform_eq (forest : Forest) (number : Nat) (registration : Registration) :
    forest.perform number registration = forest.registerAll number registration.beans := by
  rw [perform, registerAll]
  congr 1
  refine List.ext_getElem? fun place => ?_
  rw [List.getElem?_modify, List.getElem?_modify]
  by_cases hp : number = place
  · subst hp
    cases hnode : forest.nodes[number]? with
    | none => rfl
    | some node =>
      have hcurrent : (forest.registryAt number).current = node.1 := by rw [registryAt_eq hnode]
      simp [Registration.performOn_eq, Registry.registerAll, hcurrent]
  · simp [hp]

theorem getElem?_perform (forest : Forest) (place : Nat) (registration : Registration)
    (number : Nat) :
    (forest.perform place registration).nodes[number]? =
      (forest.nodes[number]?).map fun node =>
        if place = number then (node.1.registerAll registration.beans, node.2) else node := by
  rw [perform_eq, registerAll, List.getElem?_modify]
  rfl

/-- **What counts of a history** for a scope are the beans that were registered there. -/
theorem getElem?_after (history : List (Nat × Registration))
    (h : forest.nodes[number]? = some (scope, outer)) :
    (forest.after history).nodes[number]? =
      some (scope.registerAll (registeredIn number history), outer) := by
  induction history generalizing forest scope with
  | nil => exact h
  | cons entry history ih =>
    have hstep := getElem?_perform forest entry.1 entry.2 number
    rw [h, Option.map_some] at hstep
    by_cases hn : entry.1 = number
    · rw [if_pos hn] at hstep
      have hall : registeredIn number (entry :: history) =
          entry.2.beans ++ registeredIn number history := by
        simp [registeredIn, hn]
      rw [hall, Scope.registerAll, List.foldl_append]
      exact ih hstep
    · rw [if_neg hn] at hstep
      have hall : registeredIn number (entry :: history) = registeredIn number history := by
        simp [registeredIn, hn]
      rw [hall]
      exact ih hstep

/-- **Scopes and listings after any history.**  The scope of a number records what it had and what
was registered in it since, its ancestors are the scopes seen from the scope around it, and every
listing by type or annotation, with or without the ancestors, is in order. -/
theorem after_keeps (forest : Forest) (history : List (Nat × Registration)) (number : Nat) :
    (∀ scope outer, forest.nodes[number]? = some (scope, outer) →
      ((forest.after history).registryAt number).current.Records
          (scope.beans ++ registeredIn number history) ∧
        ((forest.after history).registryAt number).ancestors =
          (forest.after history).scopesAround number outer) ∧
    ∀ outward,
      (∀ type, ((forest.after history).registryAt number).Lists outward (·.hasType type)
        (((forest.after history).registryAt number).ofType type outward)) ∧
      ∀ mark, ((forest.after history).registryAt number).Lists outward (·.isMarked mark)
        (((forest.after history).registryAt number).marked mark outward) := by
  refine ⟨fun scope outer hnode => ?_, fun outward => ⟨fun type => ?_, fun mark => ?_⟩⟩
  · have hafter := getElem?_after history hnode
    rw [registryAt_eq hafter]
    exact ⟨Scope.records_registerAll scope _, rfl⟩
  · exact Registry.lists_names _ outward _
  · exact Registry.lists_names _ outward _

/-- A name that is registered again keeps its place, and a listing takes the bean of each scope for
what it is. -/
example :
    let registry := ((({} : Forest).plant {}).grow 0 |>.after
      [(0, .bean { name := "disk", types := ["Store"] }),
        (1, .acceptance "shop" (some { name := "shop", provides :=
          [{ name := "disk", types := ["Driver"] }, { name := "tape", types := ["Store"] }] })),
        (1, .bean { name := "disk", types := ["Driver"], primary := true })]).registryAt 1
    registry.current.beans.map Bean.name = ["disk", "tape"] ∧
      registry.ofType "Store" true = ["tape", "disk"] ∧ registry.isPrimary "disk" true = true := by
  cbv

end Forest
end Activation
