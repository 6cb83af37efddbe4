import Mathlib.Data.List.Permutation
import Activation.Proofs.Bean.Registry
import Activation.Proofs.Repetition
import Activation.Rule

/-!
# What a query for beans finds

A query asks for types, annotations and names, and all three are treated alike: a
criterion is met by the names of beans that fit it, in whichever of the searched
scopes they are, except for the names that some searched bean of an ignored type
bears.  This is said here in one relation between criteria and names
(`BeanQuery.Finds`), and the groups into which a query sorts its criteria are read off
from it.

* `BeanQuery.isComplete_iff`: a match is complete if every criterion is met.
* `BeanQuery.mem_beans`, `BeanQuery.nodup_beans`: its beans are the names that are found,
  each once.
* `BeanQuery.evaluateSingle_matched_iff`: what it takes for the beans to single out a
  candidate.  The marks of primary beans are read where the beans are searched, except
  in a search of the ancestors: then they are read in the current scope, and so
  `BeanQuery.evaluateSingle_overlooks_primary`.
-/

namespace Activation

/-- One thing that a query asks for. -/
inductive Criterion where
  /-- A bean of a type. -/
  | type (type : String)
  /-- A bean with an annotation. -/
  | mark (mark : String)
  /-- The bean of a name. -/
  | name (name : BeanName)

/-- Whether a bean is what a criterion asks for. -/
def Criterion.Fits : Criterion → Bean → Prop
  | .type wanted, bean => bean.hasType wanted = true
  | .mark wanted, bean => bean.isMarked wanted = true
  | .name wanted, bean => bean.name = wanted

namespace BeanQuery

open Registry

variable {query : BeanQuery} {scopes : List Scope} {name : BeanName} {criterion : Criterion}

/-! ## Criteria and the names they find -/

/-- What a query asks for. -/
def criteria (query : BeanQuery) : List Criterion :=
  query.types.map .type ++ query.annotations.map .mark ++ query.names.map .name

/-- A name does not count, since a searched bean of an ignored type bears it. -/
def Ignores (query : BeanQuery) (scopes : List Scope) (name : BeanName) : Prop :=
  ∃ type ∈ query.ignoredTypes, Bears scopes (fun bean => bean.hasType type = true) name

/-- A criterion finds a name: a searched bean of the name fits it, and the name counts. -/
def Finds (query : BeanQuery) (scopes : List Scope) (criterion : Criterion)
    (name : BeanName) : Prop :=
  Bears scopes criterion.Fits name ∧ ¬query.Ignores scopes name

/-- A criterion finds some name. -/
def Meets (query : BeanQuery) (scopes : List Scope) (criterion : Criterion) : Prop :=
  ∃ name, query.Finds scopes criterion name

/-- A name is found by some criterion of the query. -/
def Matches (query : BeanQuery) (scopes : List Scope) (name : BeanName) : Prop :=
  ∃ criterion ∈ query.criteria, query.Finds scopes criterion name

/-- The beans for a query single out a candidate: every criterion is met, and either one name
only is found, or one only of those found is marked as primary, where the marks are read in
given scopes. -/
def HasCandidate (query : BeanQuery) (searched marking : List Scope) : Prop :=
  (∀ criterion ∈ query.criteria, query.Meets searched criterion) ∧
    ((∃! name, query.Matches searched name) ∨
      ∃! name, query.Matches searched name ∧ Primary marking name)

theorem forall_mem_criteria {p : Criterion → Prop} :
    (∀ criterion ∈ query.criteria, p criterion) ↔
      (∀ type ∈ query.types, p (.type type)) ∧
      (∀ mark ∈ query.annotations, p (.mark mark)) ∧ ∀ name ∈ query.names, p (.name name) := by
  simp only [criteria, List.forall_mem_append, List.forall_mem_map, and_assoc]

theorem exists_mem_criteria {p : Criterion → Prop} :
    (∃ criterion ∈ query.criteria, p criterion) ↔
      (∃ type ∈ query.types, p (.type type)) ∨
      (∃ mark ∈ query.annotations, p (.mark mark)) ∨ ∃ name ∈ query.names, p (.name name) := by
  simp only [criteria, List.mem_append, List.mem_map, or_and_right, exists_or, or_assoc,
    exists_exists_and_eq_and]

/-- A name finds itself or nothing. -/
theorem finds_name_iff {sought : BeanName} :
    query.Finds scopes (.name sought) name ↔
      name = sought ∧ defines scopes name = true ∧ ¬query.Ignores scopes name := by
  rw [defines_iff, Finds, ← and_assoc]
  refine and_congr_left fun _ => ⟨?_, ?_⟩
  · rintro ⟨scope, hs, bean, hb, hname, rfl⟩
    exact ⟨hname.symm, scope, hs, bean, hb, hname, trivial⟩
  · rintro ⟨rfl, scope, hs, bean, hb, hname, -⟩
    exact ⟨scope, hs, bean, hb, hname, hname⟩

/-! ## The groups of a match -/

theorem contains_ignoredNames :
    (query.ignoredNames scopes).contains name = true ↔ query.Ignores scopes name := by
  rw [ignoredNames, Std.ExtTreeSet.contains_ofList, List.contains_iff_mem, List.mem_flatMap]
  simp only [Ignores, Registry.mem_names]

/-- What is sought for a criterion are the names that it finds. -/
theorem mem_sought_filter {has : Bean → String → Bool} {asked : String} :
    (name ∈ (Registry.names (has · asked) scopes).filter fun name =>
        !(query.ignoredNames scopes).contains name) ↔
      Bears scopes (fun bean => has bean asked = true) name ∧ ¬query.Ignores scopes name := by
  rw [List.mem_filter, Registry.mem_names, Bool.not_eq_true', ← Bool.not_eq_true,
    contains_ignoredNames]

/-- Nothing is missing if every criterion finds a name. -/
theorem isEmpty_missing_iff {has : Bean → String → Bool} {asked : List String} :
    (missing (sought (query.ignoredNames scopes) scopes has asked)).isEmpty = true ↔
      ∀ criterion ∈ asked, ∃ name,
        Bears scopes (fun bean => has bean criterion = true) name ∧ ¬query.Ignores scopes name := by
  rw [missing, List.isEmpty_iff, List.map_eq_nil_iff, List.filter_eq_nil_iff, sought,
    List.forall_mem_map]
  refine forall₂_congr fun criterion _ => ?_
  rw [Bool.not_eq_true, List.isEmpty_eq_false_iff_exists_mem]
  simp only [mem_sought_filter]

theorem mem_flatMap_sought {has : Bean → String → Bool} {asked : List String} :
    name ∈ (sought (query.ignoredNames scopes) scopes has asked).flatMap Prod.snd ↔
      ∃ criterion ∈ asked,
        Bears scopes (fun bean => has bean criterion = true) name ∧ ¬query.Ignores scopes name := by
  rw [sought, List.flatMap_map, List.mem_flatMap]
  simp only [mem_sought_filter]

/-- A name is found if it is defined and counts. -/
theorem counts_iff :
    (!(query.ignoredNames scopes).contains name && defines scopes name) = true ↔
      query.Finds scopes (.name name) name := by
  rw [finds_name_iff, Bool.and_eq_true, Bool.not_eq_true', ← Bool.not_eq_true,
    contains_ignoredNames, and_comm, eq_self_iff_true, true_and]

theorem mem_foundNames :
    name ∈ (query.matchesIn scopes).foundNames ↔
      ∃ sought ∈ query.names, query.Finds scopes (.name sought) name := by
  rw [matchesIn, List.partition_eq_filter_filter, List.mem_filter, counts_iff]
  refine ⟨fun h => ⟨name, h⟩, ?_⟩
  rintro ⟨sought, hs, hf⟩
  obtain rfl := (finds_name_iff.mp hf).1
  exact ⟨hs, hf⟩

theorem isEmpty_missingNames_iff :
    (query.matchesIn scopes).missingNames.isEmpty = true ↔
      ∀ sought ∈ query.names, query.Meets scopes (.name sought) := by
  rw [matchesIn, List.partition_eq_filter_filter, List.isEmpty_iff, List.filter_eq_nil_iff]
  refine forall₂_congr fun sought _ => ?_
  rw [Function.comp_apply, Bool.not_eq_true', Bool.not_eq_false, counts_iff]
  refine ⟨fun hf => ⟨sought, hf⟩, ?_⟩
  rintro ⟨name, hf⟩
  obtain rfl := (finds_name_iff.mp hf).1
  exact hf

/-- **A match is complete** if every criterion finds a name. -/
theorem isComplete_iff :
    (query.matchesIn scopes).isComplete = true ↔
      ∀ criterion ∈ query.criteria, query.Meets scopes criterion := by
  rw [forall_mem_criteria, ← isEmpty_missingNames_iff, BeanMatches.isComplete, Bool.and_eq_true,
    Bool.and_eq_true, and_assoc]
  exact and_congr isEmpty_missing_iff (and_congr_left' isEmpty_missing_iff)

/-- **The beans of a match** are the names that are found. -/
theorem mem_beans :
    name ∈ (query.matchesIn scopes).beans ↔ query.Matches scopes name := by
  rw [Matches, exists_mem_criteria, ← mem_foundNames, matchesIn, List.mem_eraseDups,
    List.mem_append, List.mem_append, or_assoc]
  exact or_congr mem_flatMap_sought (or_congr_left mem_flatMap_sought)

theorem nodup_beans : (query.matchesIn scopes).beans.Nodup :=
  Repetition.nodup_eraseDups _

/-! ## Singling out a candidate -/

/-- The beans single out a candidate if the list of them does. -/
theorem hasCandidate_iff {marking : List Scope} :
    query.HasCandidate scopes marking ↔
      (query.matchesIn scopes).isComplete = true ∧
        ((query.matchesIn scopes).beans.length = 1 ∨
          ((query.matchesIn scopes).beans.filter fun name =>
            (nearest? marking name).any Bean.primary).length = 1) := by
  rw [HasCandidate, isComplete_iff, Repetition.length_eq_one_iff nodup_beans,
    Repetition.length_eq_one_iff (nodup_beans.filter _)]
  simp only [mem_beans, List.mem_filter, any_nearest?_iff]

theorem matched_evaluateSingle (query : BeanQuery) (registry : Registry) :
    (query.evaluateSingle registry).matched =
      ((query.matchesOf registry).isComplete &&
        query.singlesOut registry (query.matchesOf registry).beans) := by
  rw [evaluateSingle]
  cases (query.matchesOf registry).isComplete <;>
    cases query.singlesOut registry (query.matchesOf registry).beans <;> rfl

/-- The condition holds if the beans single out a candidate, with the marks of primary beans read
beyond the current scope only if all scopes are searched. -/
theorem matched_evaluateSingle_iff {registry : Registry} :
    (query.evaluateSingle registry).matched = true ↔
      query.HasCandidate (registry.searched query.search)
        (registry.scopes (query.search == .all)) := by
  rw [hasCandidate_iff, matched_evaluateSingle, Bool.and_eq_true, singlesOut, Bool.or_eq_true,
    beq_iff_eq, beq_iff_eq]
  rfl

/-- **Singling out a candidate.**  The condition holds exactly if every criterion finds a name
in the searched scopes, and either one name only is found in all, or one only of the names found
is marked as primary.  The mark is that of the nearest bean of the name in the searched scopes;
but where only the ancestors are searched, it is read in the current scope alone. -/
theorem evaluateSingle_matched_iff (query : BeanQuery) (registry : Registry) :
    (query.evaluateSingle registry).matched = true ↔
      query.HasCandidate (registry.searched query.search)
        (if query.search = .ancestors then [registry.current]
          else registry.searched query.search) := by
  rw [← scopes_beq_all, hasCandidate_iff, matched_evaluateSingle, Bool.and_eq_true, singlesOut,
    Bool.or_eq_true, beq_iff_eq, beq_iff_eq]
  rfl

/-- A query for the beans of a type in the scopes around the current one. -/
def outerQuery : BeanQuery where
  types := ["Store"]
  search := .ancestors

/-- An empty scope within one that has two beans of a type, one of them primary. -/
def outerRegistry : Registry where
  ancestors := [.ofList [{ name := "disk", types := ["Store"], primary := true },
    { name := "memory", types := ["Store"] }]]

/-- **A primary bean that is overlooked.**  Two beans are found in the ancestors, and one of them
is marked as primary where it is defined.  But the mark is looked for in the current scope, which
has no bean at all, and so the beans do not single out a candidate. -/
theorem evaluateSingle_overlooks_primary :
    (Rule.requiresSingleBean outerQuery).fault? = none ∧
    outerQuery.HasCandidate (outerRegistry.searched .ancestors)
      (outerRegistry.searched .ancestors) ∧
    (outerQuery.evaluateSingle outerRegistry).matched = false := by
  refine ⟨by decide, hasCandidate_iff.mpr ⟨by decide, Or.inr (by decide)⟩, ?_⟩
  rw [matched_evaluateSingle]
  decide

end BeanQuery
end Activation
