import Activation.Proofs.Bean.Query

/-!
# Whether beans are there

Two conditions look at a query from opposite sides.  One wants a bean for every criterion, the
other wants none for any.  Both ask the same of a criterion: whether it is met, that is, whether
it finds a name in the searched scopes (`BeanQuery.Meets`).

* `BeanQuery.isComplete_iff`, `BeanQuery.isAny_iff`: what the groups of a match say of this.
* `BeanQuery.evaluate_meets`: the verdicts of the two conditions, and what the one has to do
  with the other.
-/

namespace Activation
namespace BeanQuery

open Registry

variable {query : BeanQuery} {scopes : List Scope}

/-- Something is found if some criterion finds a name. -/
theorem isEmpty_found_eq_false_iff {has : Bean → String → Bool} {asked : List String} :
    (found (sought (query.ignoredNames scopes) scopes has asked)).isEmpty = false ↔
      ∃ criterion ∈ asked, ∃ name,
        Bears scopes (fun bean => has bean criterion = true) name ∧ ¬query.Ignores scopes name := by
  rw [found, Std.ExtTreeMap.ofList_eq_insertMany_empty, Std.ExtTreeMap.isEmpty_insertMany_list,
    Std.ExtTreeMap.isEmpty_empty, Bool.true_and, List.isEmpty_eq_false_iff_exists_mem]
  constructor
  · rintro ⟨entry, he⟩
    obtain ⟨hs, hne⟩ := List.mem_filter.mp he
    obtain ⟨criterion, hc, rfl⟩ := List.mem_map.mp hs
    rw [Bool.not_eq_true', List.isEmpty_eq_false_iff_exists_mem] at hne
    obtain ⟨name, hn⟩ := hne
    exact ⟨criterion, hc, name, mem_sought_filter.mp hn⟩
  · rintro ⟨criterion, hc, name, hn⟩
    refine ⟨_, List.mem_filter.mpr ⟨List.mem_map_of_mem hc, ?_⟩⟩
    rw [Bool.not_eq_true', List.isEmpty_eq_false_iff_exists_mem]
    exact ⟨name, mem_sought_filter.mpr hn⟩

theorem isEmpty_foundNames_eq_false_iff :
    (query.matchesIn scopes).foundNames.isEmpty = false ↔
      ∃ sought ∈ query.names, query.Meets scopes (.name sought) := by
  rw [List.isEmpty_eq_false_iff_exists_mem]
  simp only [mem_foundNames, Meets]
  exact ⟨fun ⟨name, sought, hs, hf⟩ => ⟨sought, hs, name, hf⟩,
    fun ⟨sought, hs, name, hf⟩ => ⟨name, sought, hs, hf⟩⟩

/-- **A match finds something** if some criterion finds a name. -/
theorem isAny_iff :
    (query.matchesIn scopes).isAny = true ↔
      ∃ criterion ∈ query.criteria, query.Meets scopes criterion := by
  rw [exists_mem_criteria, ← isEmpty_foundNames_eq_false_iff, BeanMatches.isAny, Bool.or_eq_true,
    Bool.or_eq_true, or_assoc, Bool.not_eq_true', Bool.not_eq_true', Bool.not_eq_true']
  exact or_congr isEmpty_found_eq_false_iff (or_congr_left isEmpty_found_eq_false_iff)

/-! ## The two conditions -/

theorem matched_evaluatePresent (query : BeanQuery) (registry : Registry) :
    (query.evaluatePresent registry).matched = (query.matchesOf registry).isComplete := by
  rw [evaluatePresent]
  cases (query.matchesOf registry).isComplete <;> rfl

theorem matched_evaluateAbsent (query : BeanQuery) (registry : Registry) :
    (query.evaluateAbsent registry).matched = !(query.matchesOf registry).isAny := by
  rw [evaluateAbsent]
  cases (query.matchesOf registry).isAny <;> rfl

theorem matched_evaluatePresent_iff {registry : Registry} :
    (query.evaluatePresent registry).matched = true ↔
      ∀ criterion ∈ query.criteria,
        query.Meets (registry.searched query.search) criterion := by
  rw [matched_evaluatePresent, matchesOf, isComplete_iff]

theorem matched_evaluateAbsent_eq_false_iff {registry : Registry} :
    (query.evaluateAbsent registry).matched = false ↔
      ∃ criterion ∈ query.criteria,
        query.Meets (registry.searched query.search) criterion := by
  rw [matched_evaluateAbsent, matchesOf, Bool.not_eq_false', isAny_iff]

theorem matched_evaluateAbsent_iff {registry : Registry} :
    (query.evaluateAbsent registry).matched = true ↔
      ∀ criterion ∈ query.criteria,
        ¬query.Meets (registry.searched query.search) criterion := by
  rw [← Bool.not_eq_false, matched_evaluateAbsent_eq_false_iff]
  push Not
  rfl

/-- **Whether beans are there.**  The one condition holds if every criterion is met in the
searched scopes, the other if none is.  So for a query that asks for anything the two do not both
hold, for one that asks for one thing exactly one of them does, and what is not searched has no
influence on either. -/
theorem evaluate_meets (query : BeanQuery) (registry : Registry) :
    ((query.evaluatePresent registry).matched = true ↔
      ∀ criterion ∈ query.criteria, query.Meets (registry.searched query.search) criterion) ∧
    ((query.evaluateAbsent registry).matched = true ↔
      ∀ criterion ∈ query.criteria, ¬query.Meets (registry.searched query.search) criterion) ∧
    (query.criteria ≠ [] →
      ¬((query.evaluatePresent registry).matched = true ∧
        (query.evaluateAbsent registry).matched = true)) ∧
    ((∃! criterion, criterion ∈ query.criteria) →
      (query.evaluatePresent registry).matched = !(query.evaluateAbsent registry).matched) ∧
    ∀ other : Registry, other.searched query.search = registry.searched query.search →
      query.evaluatePresent other = query.evaluatePresent registry ∧
        query.evaluateAbsent other = query.evaluateAbsent registry := by
  refine ⟨matched_evaluatePresent_iff, matched_evaluateAbsent_iff, ?_, ?_, ?_⟩
  · rintro hne ⟨hpresent, habsent⟩
    obtain ⟨criterion, hc⟩ := List.exists_mem_of_ne_nil _ hne
    exact matched_evaluateAbsent_iff.mp habsent criterion hc
      (matched_evaluatePresent_iff.mp hpresent criterion hc)
  · rintro ⟨criterion, hc, hunique⟩
    rw [Bool.eq_iff_iff, Bool.not_eq_true', ← Bool.not_eq_true, matched_evaluatePresent_iff,
      matched_evaluateAbsent_iff]
    constructor
    · exact fun hall hnone => hnone criterion hc (hall criterion hc)
    · intro hsome other ho
      rw [hunique other ho]
      by_contra hunmet
      exact hsome fun another ha => hunique another ha ▸ hunmet
  · intro other hsearched
    rw [evaluatePresent, evaluatePresent, evaluateAbsent, evaluateAbsent, matchesOf, matchesOf,
      hsearched]
    exact ⟨rfl, rfl⟩

end BeanQuery
end Activation
