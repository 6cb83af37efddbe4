import Activation.Proofs.Order.Component
import Activation.Proofs.Order.Precedence

/-!
# What the report of a cycle says

If accepted units cannot be put in order, then the failure names two of them and lists the
members of their cycle.  The two come from the stack of the walk at the moment at which it
stopped; the members come from searches of the whole table afterwards.  Both describe the
same cycle.

* `Order.Tangled`: two units are tangled up if each must follow the other, perhaps by way
  of further units.
* `Order.AreComponents`: what it takes for lists of units to be the strongly connected
  components of a relation.
* `Order.arrange_reports_cycle`: the first unit must follow the second, the second leads
  back to the first, and the members are the units that are tangled up with the first,
  sorted by precedence.  They are also what one reads off the components of the relation,
  however these were computed.
-/

namespace Activation

open Relation

namespace Order

/-! ## Strongly connected components -/

/-- Two units are tangled up: a relation leads from each to the other, or they are the
same. -/
def Tangled (related : UnitName → UnitName → Prop) (unit other : UnitName) : Prop :=
  ReflTransGen related unit other ∧ ReflTransGen related other unit

/-- **Lists of units are the strongly connected components** of a relation on given units:
every unit is in one of them, and beside a unit stands whatever is tangled up with it and
nothing else. -/
structure AreComponents (related : UnitName → UnitName → Prop) (units : List UnitName)
    (components : List (List UnitName)) : Prop where
  /-- Every unit is in one of the lists. -/
  covers : ∀ unit ∈ units, ∃ component ∈ components, unit ∈ component
  /-- What stands beside a unit is what is tangled up with it. -/
  mem_iff : ∀ component ∈ components, ∀ unit ∈ component, ∀ other,
    other ∈ component ↔ Tangled related unit other

/-- The first component in which a unit stands. -/
def componentOf (components : List (List UnitName)) (unit : UnitName) : List UnitName :=
  (components.find? fun component => component.contains unit).getD []

section Components

variable {related : UnitName → UnitName → Prop} {units : List UnitName}
  {components : List (List UnitName)} {unit other : UnitName}

/-- A relation that is read the other way tangles up the same units. -/
theorem tangled_swap : Tangled (Function.swap related) unit other ↔ Tangled related unit other :=
  (and_congr reflTransGen_swap reflTransGen_swap).trans and_comm

theorem AreComponents.mem_componentOf (h : AreComponents related units components)
    (hunit : unit ∈ units) :
    other ∈ componentOf components unit ↔ Tangled related unit other := by
  obtain ⟨component, hc, hu⟩ := h.covers unit hunit
  have hsome : (components.find? fun component => component.contains unit).isSome = true :=
    List.find?_isSome.mpr ⟨component, hc, List.contains_iff_mem.mpr hu⟩
  obtain ⟨first, hfirst⟩ := Option.isSome_iff_exists.mp hsome
  obtain ⟨hholds, -⟩ := List.find?_eq_some_iff_append.mp hfirst
  rw [componentOf, hfirst, Option.getD_some]
  exact h.mem_iff first (List.mem_of_find?_eq_some hfirst) unit (List.contains_iff_mem.mp hholds)
    other

end Components

variable {index : Metadata} {catalog : Catalog} {accepted : List UnitName} {cycle : Cycle}

/-! ## The report -/

/-- **What is reported** is the clash that the walk found, and the members as they are read
off the table. -/
theorem clash_of_arrange_eq_cycle (h : arrange index catalog accepted = .error (.cycle cycle)) :
    Clash.IsCycle (prerequisites index catalog accepted) ⟨cycle.first, cycle.second⟩ ∧
      cycle.members = (prerequisites index catalog accepted).members
        (prioritized index catalog accepted) cycle.first := by
  rcases arrange_cases index catalog accepted with ⟨problem, -, he⟩ | ⟨readable, -, -⟩ |
    ⟨-, -, order, he, -⟩
  · rw [h] at he
    exact nomatch he
  · rcases arrange_walks readable with ⟨clash, hclash, he⟩ | ⟨last, -, -, he⟩
    · rw [h] at he
      cases he
      exact ⟨hclash, rfl⟩
    · rw [h] at he
      exact nomatch he
  · rw [h] at he
    exact nomatch he

theorem pairwise_precedes_prioritized (distinct : accepted.Nodup) :
    (prioritized index catalog accepted).Pairwise (Precedes index catalog accepted) :=
  List.pairwise_iff_forall_sublist.mpr fun h => (precedes_iff distinct).mpr h

/-- **The members** are the accepted units that are tangled up with the first of the two
units of the report. -/
theorem mem_members_iff (distinct : accepted.Nodup)
    (h : arrange index catalog accepted = .error (.cycle cycle)) (unit : UnitName) :
    unit ∈ cycle.members ↔
      unit ∈ accepted ∧ Tangled (MustFollow index catalog accepted) cycle.first unit := by
  obtain ⟨-, hmembers⟩ := clash_of_arrange_eq_cycle h
  rw [hmembers, Prerequisites.mem_members (nodup_prioritized distinct), mem_prioritized,
    needs_eq_mustFollow]
  rfl

theorem members_sublist_prioritized (distinct : accepted.Nodup)
    (h : arrange index catalog accepted = .error (.cycle cycle)) :
    cycle.members.Sublist (prioritized index catalog accepted) := by
  obtain ⟨-, hmembers⟩ := clash_of_arrange_eq_cycle h
  rw [hmembers]
  exact Prerequisites.members_sublist (nodup_prioritized distinct)

/-- **Components lead to the same members**: the units, as sorted by precedence, that stand
in the component of the first unit. -/
theorem members_eq_filter_componentOf (distinct : accepted.Nodup)
    (h : arrange index catalog accepted = .error (.cycle cycle))
    (hfirst : cycle.first ∈ accepted) {components : List (List UnitName)}
    (hcomponents : AreComponents (fun other unit => MustFollow index catalog accepted unit other)
      accepted components) :
    cycle.members = (prioritized index catalog accepted).filter fun unit =>
      (componentOf components cycle.first).contains unit := by
  obtain ⟨-, hmembers⟩ := clash_of_arrange_eq_cycle h
  rw [hmembers, Prerequisites.members_eq_filter (nodup_prioritized distinct)]
  refine List.filter_congr fun unit _ => ?_
  have hcomponent : unit ∈ componentOf components cycle.first ↔
      Tangled (MustFollow index catalog accepted) cycle.first unit := by
    rw [hcomponents.mem_componentOf hfirst]
    exact tangled_swap
  rw [Bool.eq_iff_iff, List.contains_iff_mem, hcomponent, Bool.and_eq_true,
    ← Std.ExtTreeSet.mem_iff_contains, ← Std.ExtTreeSet.mem_iff_contains,
    Prerequisites.mem_closure, Prerequisites.mem_closure_reversed, needs_eq_mustFollow]
  rfl

/-- **A reported cycle is a true and complete witness.**  The first unit must follow the
second, and the second leads back to the first.  The members are the accepted units that
are tangled up with the first one, each once and sorted by precedence; so the two named
units are among them, and no bystander is.  They are the same if they are read off the
strongly connected components of the relation, with edges from a unit to those that must
follow it, whichever search has found these. -/
theorem arrange_reports_cycle (index : Metadata) (catalog : Catalog) {accepted : List UnitName}
    {cycle : Cycle} (distinct : accepted.Nodup)
    (failed : arrange index catalog accepted = .error (.cycle cycle)) :
    MustFollow index catalog accepted cycle.first cycle.second ∧
    ReflTransGen (MustFollow index catalog accepted) cycle.second cycle.first ∧
    (∀ unit, unit ∈ cycle.members ↔
      unit ∈ accepted ∧ Tangled (MustFollow index catalog accepted) cycle.first unit) ∧
    cycle.members.Nodup ∧
    cycle.members.Pairwise (Precedes index catalog accepted) ∧
    cycle.first ∈ cycle.members ∧ cycle.second ∈ cycle.members ∧
    ∀ components,
      AreComponents (fun other unit => MustFollow index catalog accepted unit other) accepted
          components →
        cycle.members = (prioritized index catalog accepted).filter fun unit =>
          (componentOf components cycle.first).contains unit := by
  obtain ⟨⟨hdirect, hback⟩, -⟩ := clash_of_arrange_eq_cycle failed
  rw [needs_eq_mustFollow] at hdirect hback
  have hfirst : cycle.first ∈ accepted := hdirect.1
  have hsecond : cycle.second ∈ accepted := hdirect.2.1
  have hsublist := members_sublist_prioritized distinct failed
  refine ⟨hdirect, hback, mem_members_iff distinct failed, ?_, ?_, ?_, ?_, ?_⟩
  · exact (nodup_prioritized distinct).sublist hsublist
  · exact (pairwise_precedes_prioritized distinct).sublist hsublist
  · rw [mem_members_iff distinct failed]
    exact ⟨hfirst, ReflTransGen.refl, ReflTransGen.refl⟩
  · rw [mem_members_iff distinct failed]
    exact ⟨hsecond, ReflTransGen.single hdirect, hback⟩
  · intro components hcomponents
    exact members_eq_filter_componentOf distinct failed hfirst hcomponents

/-- Two units in a circle, and one that follows them. -/
def ringUnits : List UnitName := ["app", "web", "db"]

/-- What the bystander declares of its order in the index. -/
def ringIndex : Metadata :=
  .ofPairs [("web.AutoConfigureAfter", "app")]

/-- What the two units of the circle declare of their order in the catalog. -/
def ringCatalog : Catalog :=
  .ofDefinitions [{ name := "app", order := some 3, after := ["db"], before := ["db"] },
    { name := "db", order := some 1 }]

/-- The prerequisites that these declarations make. -/
def ringTable : Prerequisites :=
  .ofList [("web", ["app"]), ("db", ["app"]), ("app", ["db"])]

theorem prioritized_ring : prioritized ringIndex ringCatalog ringUnits = ["web", "db", "app"] := by
  obtain ⟨happ, hweb, hdb⟩ : (Hints.ofUnit ringIndex ringCatalog "app").order = 3 ∧
      (Hints.ofUnit ringIndex ringCatalog "web").order = 0 ∧
      (Hints.ofUnit ringIndex ringCatalog "db").order = 1 := by
    decide
  simp [prioritized, ringUnits, List.mergeSort, List.MergeSort.Internal.splitInTwo, happ, hweb, hdb]

theorem prerequisites_ring : prerequisites ringIndex ringCatalog ringUnits = ringTable := by
  rw [prerequisites, prioritized_ring]
  decide

theorem members_ring : ringTable.members ["web", "db", "app"] "db" = ["db", "app"] := by
  have hreversed : ringTable.reversed =
      .ofList [("web", []), ("app", ["db", "web"]), ("db", ["app"])] := by
    decide
  rw [Prerequisites.members, hreversed]
  cbv

/-- The walk comes upon the circle from the web server, at the application. -/
theorem arrange_ring : arrange ringIndex ringCatalog ringUnits =
    .error (.cycle ⟨"db", "app", ["db", "app"]⟩) := by
  have hwalk : Walk.arrange ringTable ["web", "db", "app"] = .error ⟨"db", "app"⟩ := by
    cbv
  rw [arrange_of_readable (by decide), prerequisites_ring, prioritized_ring, hwalk]
  show Except.error (Failure.cycle ⟨"db", "app", ringTable.members _ "db"⟩) = _
  rw [members_ring]

/-- The web server follows the application, which is in a circle with the database. -/
theorem mustFollow_ring {unit other : UnitName} :
    MustFollow ringIndex ringCatalog ringUnits unit other ↔
      (unit, other) ∈ [("web", "app"), ("app", "db"), ("db", "app")] := by
  have hall : ∀ unit ∈ ringUnits, ∀ other ∈ ringUnits,
      (unit ∈ ringUnits ∧ other ∈ ringUnits ∧
        (other ∈ Hints.readUnits ringIndex ringCatalog unit Definition.after Metadata.afterKey ∨
          unit ∈ Hints.readUnits ringIndex ringCatalog other Definition.before
            Metadata.beforeKey)) ↔
        (unit, other) ∈ [("web", "app"), ("app", "db"), ("db", "app")] := by
    decide
  constructor
  · intro h
    exact (hall unit h.1 other h.2.1).mp h
  · intro h
    have hcases := h
    simp only [List.mem_cons, Prod.mk.injEq, List.not_mem_nil, or_false] at hcases
    rcases hcases with ⟨rfl, rfl⟩ | ⟨rfl, rfl⟩ | ⟨rfl, rfl⟩ <;>
      exact (hall _ (by decide) _ (by decide)).mpr h

/-- The bystander is a component by itself. -/
theorem areComponents_ring :
    AreComponents (fun other unit => MustFollow ringIndex ringCatalog ringUnits unit other)
      ringUnits [["db", "app"], ["web"]] := by
  have hleads : ∀ other unit, MustFollow ringIndex ringCatalog ringUnits unit other →
      other ≠ "web" ∧ (unit ∈ ["db", "app"] → other ∈ ["db", "app"]) := by
    intro other unit h
    rw [mustFollow_ring] at h
    simp only [List.mem_cons, Prod.mk.injEq, List.not_mem_nil, or_false] at h
    rcases h with ⟨rfl, rfl⟩ | ⟨rfl, rfl⟩ | ⟨rfl, rfl⟩ <;> decide
  have hdb : MustFollow ringIndex ringCatalog ringUnits "db" "app" :=
    mustFollow_ring.mpr (by decide)
  have happ : MustFollow ringIndex ringCatalog ringUnits "app" "db" :=
    mustFollow_ring.mpr (by decide)
  refine ⟨by decide, fun component hc unit hu other => ?_⟩
  rcases List.mem_pair.mp hc with rfl | rfl
  · constructor
    · intro ho
      rcases List.mem_pair.mp hu with rfl | rfl <;> rcases List.mem_pair.mp ho with rfl | rfl
      · exact ⟨.refl, .refl⟩
      · exact ⟨.single happ, .single hdb⟩
      · exact ⟨.single hdb, .single happ⟩
      · exact ⟨.refl, .refl⟩
    · rintro ⟨-, hto⟩
      -- whatever leads to the circle is in it
      induction hto using ReflTransGen.head_induction_on with
      | refl => exact hu
      | head hstep _ ih => exact (hleads _ _ hstep).2 ih
  · obtain rfl : unit = "web" := List.mem_singleton.mp hu
    constructor
    · intro ho
      rw [List.mem_singleton.mp ho]
      exact ⟨.refl, .refl⟩
    · rintro ⟨hfrom, -⟩
      rcases ReflTransGen.cases_head hfrom with rfl | ⟨next, hstep, -⟩
      · exact hu
      · exact absurd rfl (hleads _ _ hstep).1

/-- The circle is reported without the bystander, though the walk came upon it from there. -/
theorem arrange_reports_cycle_ring :
    ringUnits.Nodup ∧
    arrange ringIndex ringCatalog ringUnits = .error (.cycle ⟨"db", "app", ["db", "app"]⟩) ∧
    AreComponents (fun other unit => MustFollow ringIndex ringCatalog ringUnits unit other)
      ringUnits [["db", "app"], ["web"]] ∧
    MustFollow ringIndex ringCatalog ringUnits "db" "app" ∧
    ["db", "app"].Pairwise (Precedes ringIndex ringCatalog ringUnits) ∧
    ["db", "app"] = (prioritized ringIndex ringCatalog ringUnits).filter fun unit =>
      (componentOf [["db", "app"], ["web"]] "db").contains unit := by
  have distinct : ringUnits.Nodup := by decide
  obtain ⟨hdirect, -, -, -, hsorted, -, -, hcomponents⟩ :=
    arrange_reports_cycle ringIndex ringCatalog distinct arrange_ring
  exact ⟨distinct, arrange_ring, areComponents_ring, hdirect, hsorted,
    hcomponents _ areComponents_ring⟩

end Order
end Activation
