import Activation.Prefilter
import Mathlib.Data.List.Induction

/-!
# The pre-filter judges every candidate by itself

Filters work on a whole list of slots, and the list may even be cut in two on the
way.  None of this can be seen in the end: a filter answers for each open slot from
that slot alone (`Filter.outcomes_eq_map`), and an open slot meets the filters in
their order until one of them closes it.

* `FilterChain.against?`: the outcome of the first filter that speaks against a unit,
  when each filter is asked about this unit alone.
* `FilterChain.apply_eq_map`: in the end the slot of every candidate is closed by
  exactly that outcome.
* `FilterChain.survivors_apply`, `FilterChain.rejected_apply`: so survivors and
  rejected candidates are picked from the candidates one by one.
-/

namespace Activation

variable (machine : Machine) (index : Metadata) (oracle : Oracle)

namespace Filter

/-- The outcome that a filter gives against a unit; none if it gives no outcome, or
one that is a match. -/
def against? (filter : Filter) (unit : UnitName) : Option Outcome :=
  (filter.outcome? index oracle unit).filter fun outcome => !outcome.matched

/-- **A filter answers slot by slot**, whichever way its work is shared. -/
theorem outcomes_eq_map (filter : Filter) (slots : List (Option UnitName)) :
    filter.outcomes machine index oracle slots =
      slots.map fun slot => slot.bind (filter.outcome? index oracle) := by
  cases filter with
  | symbols mode => exact Machine.workOut_map machine mode _ slots
  | beanTypes => rfl
  | webStack => rfl

end Filter

namespace Slot

/-- A slot that meets what a filter says of its own candidate keeps the outcome that
closed it, or takes the outcome against its candidate. -/
theorem meet_outcome? (slot : Slot) (filter : Filter) :
    slot.meet (slot.open?.bind (filter.outcome? index oracle)) =
      ⟨slot.unit, slot.against.or (filter.against? index oracle slot.unit)⟩ := by
  obtain ⟨unit, against⟩ := slot
  cases against with
  | some outcome => rfl
  | none =>
    rw [meet, open?, Filter.against?, Option.bind_some, Option.none_or]
    cases filter.outcome? index oracle unit with
    | none => rfl
    | some outcome =>
      by_cases hm : outcome.matched = true
      · simp [Outcome.allows, Option.filter_some, hm]
      · simp [Outcome.allows, Option.filter_some, hm]

end Slot

namespace FilterChain

/-- The first outcome against a unit when the filters are asked about it in turn. -/
def against? (chain : FilterChain) (unit : UnitName) : Option Outcome :=
  chain.findSome? fun filter => filter.against? index oracle unit

/-- A filter changes every slot by itself. -/
theorem step_eq_map (slots : List Slot) (filter : Filter) :
    step machine index oracle slots filter =
      slots.map fun slot =>
        ⟨slot.unit, slot.against.or (filter.against? index oracle slot.unit)⟩ := by
  rw [step, Filter.outcomes_eq_map, List.map_map, List.zipWith_map_right, List.zipWith_self]
  refine List.map_congr_left fun slot _ => ?_
  exact Slot.meet_outcome? index oracle slot filter

/-- **The slots after all filters**: each candidate with the first outcome against it. -/
theorem apply_eq_map (chain : FilterChain) (candidates : List UnitName) :
    chain.apply machine index oracle candidates =
      candidates.map fun unit => ⟨unit, chain.against? index oracle unit⟩ := by
  rw [apply]
  induction chain using List.reverseRecOn with
  | nil => rfl
  | append_singleton chain filter ih =>
    rw [List.foldl_append, List.foldl_cons, List.foldl_nil, ih, step_eq_map, List.map_map]
    refine List.map_congr_left fun unit _ => ?_
    simp [against?, List.findSome?_append]

/-- **The survivors** are the candidates against which no filter speaks. -/
theorem survivors_apply (chain : FilterChain) (candidates : List UnitName) :
    survivors (chain.apply machine index oracle candidates) =
      candidates.filter fun unit => (chain.against? index oracle unit).isNone := by
  rw [apply_eq_map, survivors]
  induction candidates with
  | nil => rfl
  | cons unit candidates ih =>
    rw [List.map_cons, List.filterMap_cons, List.filter_cons, ih]
    cases h : chain.against? index oracle unit with
    | none => rfl
    | some outcome => rfl

/-- **The candidates sorted out** are the others, each with the outcome against it. -/
theorem rejected_apply (chain : FilterChain) (candidates : List UnitName) :
    rejected (chain.apply machine index oracle candidates) =
      candidates.filterMap fun unit =>
        (chain.against? index oracle unit).map fun outcome => (unit, outcome) := by
  rw [apply_eq_map, rejected, List.filterMap_map]
  rfl

/-- The units that are listed with what speaks against them are those against which
something speaks. -/
theorem map_fst_filterMap {α : Type} (f : UnitName → Option α) (units : List UnitName) :
    (units.filterMap fun unit => (f unit).map fun against => (unit, against)).map Prod.fst =
      units.filter fun unit => (f unit).isSome := by
  induction units with
  | nil => rfl
  | cons unit units ih =>
    rw [List.filterMap_cons, List.filter_cons]
    cases f unit with
    | none => exact ih
    | some against => exact congrArg (unit :: ·) ih

end FilterChain
end Activation
