import Activation.Proofs.Bean.Presence
import Activation.Proofs.Bean.Registration
import Mathlib.Data.List.Forall2

/-!
# Beans under new names

Beans of ignored types are taken out of a match by their names.  So a bean that is registered
later could undo a match: it could replace a bean that was found, or bear its name in another
scope and be of an ignored type.  Neither happens if the name is new to all scopes.  Of the names
that were there before, the scopes then say what they said before (`Registry.bears_iff_of_gains`),
and so a criterion that was met stays met, by the same name (`BeanQuery.Meets.of_gains`).

* `Forest.meets_perform`, `Forest.meets_after`: one registration under a new name, and a history
  of them, in whichever scopes.
* `Forest.after_monotone`: what this means for the two conditions on the presence of beans.
-/

namespace Activation

namespace Scope

variable {scope later : Scope} {bean other : Bean}

/-- A scope has been left as it is, or a bean has been registered in it. -/
def Gains (bean : Bean) (scope later : Scope) : Prop :=
  later = scope ∨ later = scope.register bean

theorem Gains.refl (bean : Bean) (scope : Scope) : Gains bean scope scope :=
  Or.inl rfl

/-- Beans of other names are neither gained nor lost. -/
theorem Gains.mem_beans_iff (h : Gains bean scope later) (hne : other.name ≠ bean.name) :
    other ∈ later.beans ↔ other ∈ scope.beans := by
  rcases h with rfl | rfl
  · rfl
  · rw [mem_register]
    constructor
    · rintro (rfl | ⟨ho, -⟩)
      · exact absurd rfl hne
      · exact ho
    · exact fun ho => Or.inr ⟨ho, hne⟩

end Scope

namespace Registry

variable {scopes later : List Scope} {bean : Bean} {name : BeanName} {p : Bean → Prop}

/-- **Of another name**, the scopes say what they said before. -/
theorem bears_iff_of_gains (h : List.Forall₂ (Scope.Gains bean) scopes later)
    (hne : name ≠ bean.name) : Bears later p name ↔ Bears scopes p name := by
  induction h with
  | nil => rfl
  | cons hscope _ ih =>
    rw [Bears, Bears, List.exists_mem_cons_iff, List.exists_mem_cons_iff]
    refine or_congr (exists_congr fun other => ?_) ih
    refine and_congr_left ?_
    rintro ⟨rfl, -⟩
    exact hscope.mem_beans_iff hne

/-- What scopes gain is gained by those of them that are searched. -/
theorem gains_searched (h : List.Forall₂ (Scope.Gains bean) scopes later) (search : Search) :
    List.Forall₂ (Scope.Gains bean) ((ofScopes scopes).searched search)
      ((ofScopes later).searched search) := by
  cases h with
  | nil => exact List.forall₂_same.mpr fun scope _ => Scope.Gains.refl bean scope
  | cons hscope houter =>
    cases search with
    | current => exact .cons hscope .nil
    | ancestors => exact houter
    | all => exact .cons hscope houter

theorem searched_subset (registry : Registry) (search : Search) :
    registry.searched search ⊆ registry.scopes true := by
  cases search with
  | current => exact List.cons_subset_cons _ (List.nil_subset _)
  | ancestors => exact List.subset_cons_self _ _
  | all => exact List.Subset.refl _

end Registry

namespace BeanQuery

variable {query : BeanQuery} {scopes later : List Scope} {bean : Bean} {criterion : Criterion}

/-- **A criterion that is met stays met** when a bean of a new name is registered, be the bean of
an ignored type or not. -/
theorem Meets.of_gains (hmeets : query.Meets scopes criterion)
    (h : List.Forall₂ (Scope.Gains bean) scopes later)
    (hnew : ∀ scope ∈ scopes, ∀ other ∈ scope.beans, other.name ≠ bean.name) :
    query.Meets later criterion := by
  obtain ⟨name, hbears, hcounts⟩ := hmeets
  have hne : name ≠ bean.name := by
    obtain ⟨scope, hs, other, ho, rfl, -⟩ := hbears
    exact hnew scope hs other ho
  refine ⟨name, (Registry.bears_iff_of_gains h hne).mpr hbears, ?_⟩
  rintro ⟨type, ht, hignored⟩
  exact hcounts ⟨type, ht, (Registry.bears_iff_of_gains h hne).mp hignored⟩

end BeanQuery

namespace Forest

variable {forest : Forest} {number place : Nat} {bean : Bean} {query : BeanQuery}
  {criterion : Criterion}

/-- A name is new to all scopes that are seen from the scope of a given number. -/
def NewName (forest : Forest) (number : Nat) (name : BeanName) : Prop :=
  ∀ scope ∈ (forest.registryAt number).scopes true, ∀ other ∈ scope.beans, other.name ≠ name

theorem newName_iff {name : BeanName} :
    forest.NewName number name ↔ (forest.registryAt number).contains name true = false := by
  rw [NewName, Registry.contains, ← Bool.not_eq_true, Registry.defines_iff, Registry.Bears]
  push Not
  simp only [imp_false, ne_eq]

/-- **Registrations under new names**: each bean has, when it is registered, a name that is new
to all scopes that are seen from the scope of a given number. -/
def NewlyNamed (forest : Forest) (number : Nat) : List (Nat × Bean) → Prop
  | [] => True
  | (place, bean) :: entries =>
    forest.NewName number bean.name ∧
      (forest.perform place (.bean bean)).NewlyNamed number entries

/-- The registrations of beans as a history. -/
def historyOf (entries : List (Nat × Bean)) : List (Nat × Registration) :=
  entries.map fun entry => (entry.1, .bean entry.2)

/-- A bean that is registered somewhere is gained by the scopes seen from a scope, or leaves them
as they are. -/
theorem gains_scopesFrom (forest : Forest) (place : Nat) (bean : Bean) (number : Nat) :
    List.Forall₂ (Scope.Gains bean) (forest.scopesFrom number)
      ((forest.perform place (.bean bean)).scopesFrom number) := by
  induction number using Nat.strong_induction_on with
  | _ number ih =>
    have hstep := getElem?_perform forest place (.bean bean) number
    cases hnode : forest.nodes[number]? with
    | none =>
      rw [hnode, Option.map_none] at hstep
      rw [scopesFrom_eq_nil hnode, scopesFrom_eq_nil hstep]
      exact .nil
    | some node =>
      obtain ⟨scope, outer⟩ := node
      have haround : List.Forall₂ (Scope.Gains bean) (forest.scopesAround number outer)
          ((forest.perform place (.bean bean)).scopesAround number outer) := by
        cases outer with
        | none => exact .nil
        | some around =>
          rw [scopesAround, scopesAround]
          split
          · next hlt => exact ih around hlt
          · exact .nil
      rw [hnode, Option.map_some] at hstep
      rw [scopesFrom_eq_cons hnode]
      by_cases hp : place = number
      · rw [if_pos hp] at hstep
        rw [scopesFrom_eq_cons hstep]
        exact .cons (Or.inr rfl) haround
      · rw [if_neg hp] at hstep
        rw [scopesFrom_eq_cons hstep]
        exact .cons (Scope.Gains.refl bean scope) haround

theorem meets_perform {search : Search}
    (hmeets : query.Meets ((forest.registryAt number).searched search) criterion)
    (hnew : forest.NewName number bean.name) :
    query.Meets (((forest.perform place (.bean bean)).registryAt number).searched search)
      criterion :=
  hmeets.of_gains (Registry.gains_searched (gains_scopesFrom forest place bean number) search)
    fun scope hs => hnew scope (Registry.searched_subset _ search hs)

/-- **A criterion stays met** in the course of a history of registrations under new names. -/
theorem meets_after {search : Search} {entries : List (Nat × Bean)}
    (hmeets : query.Meets ((forest.registryAt number).searched search) criterion)
    (hnew : forest.NewlyNamed number entries) :
    query.Meets (((forest.after (historyOf entries)).registryAt number).searched search)
      criterion := by
  induction entries generalizing forest with
  | nil => exact hmeets
  | cons entry entries ih => exact ih (meets_perform hmeets hnew.1) hnew.2

/-- **Registrations under new names** do not undo what was found.  If there was a bean for every
criterion, there still is; and if the condition that there is none for any did not hold, it still
does not. -/
theorem after_monotone (forest : Forest) (number : Nat) (query : BeanQuery)
    {entries : List (Nat × Bean)} (newly : forest.NewlyNamed number entries) :
    ((query.evaluatePresent (forest.registryAt number)).matched = true →
      (query.evaluatePresent ((forest.after (historyOf entries)).registryAt number)).matched =
        true) ∧
    ((query.evaluateAbsent (forest.registryAt number)).matched = false →
      (query.evaluateAbsent ((forest.after (historyOf entries)).registryAt number)).matched =
        false) := by
  rw [BeanQuery.matched_evaluatePresent_iff, BeanQuery.matched_evaluatePresent_iff,
    BeanQuery.matched_evaluateAbsent_eq_false_iff, BeanQuery.matched_evaluateAbsent_eq_false_iff]
  constructor
  · exact fun hall criterion hc => meets_after (hall criterion hc) newly
  · rintro ⟨criterion, hc, hmeets⟩
    exact ⟨criterion, hc, meets_after hmeets newly⟩

/-- A scope with a store, and an empty scope within it. -/
def nested : Forest :=
  (({} : Forest).plant (.ofList [{ name := "disk", types := ["Store"] }])).grow 0

theorem registryAt_nested :
    nested.registryAt 1 = ⟨{}, [.ofList [{ name := "disk", types := ["Store"] }]]⟩ := by
  cbv

/-- A query for stores that are no caches. -/
def steadyStores : BeanQuery where
  types := ["Store"]
  ignoredTypes := ["Cache"]

/-- A store that is a cache for the inner scope, and another cache for the outer one. -/
def caches : List (Nat × Bean) :=
  [(1, { name := "memory", types := ["Store", "Cache"] }),
    (0, { name := "page", types := ["Cache"] })]

/-- The one store that is no cache is still found when caches have been registered. -/
theorem after_monotone_nested :
    nested.NewlyNamed 1 caches ∧
    (steadyStores.evaluatePresent (nested.registryAt 1)).matched = true ∧
    (steadyStores.evaluatePresent ((nested.after (historyOf caches)).registryAt 1)).matched =
      true ∧
    (steadyStores.evaluateAbsent (nested.registryAt 1)).matched = false ∧
    (steadyStores.evaluateAbsent ((nested.after (historyOf caches)).registryAt 1)).matched =
      false := by
  have newly : nested.NewlyNamed 1 caches := by
    refine ⟨newName_iff.mpr ?_, newName_iff.mpr ?_, trivial⟩
    · cbv
    · cbv
  have present : (steadyStores.evaluatePresent (nested.registryAt 1)).matched = true := by
    rw [registryAt_nested]
    decide
  have absent : (steadyStores.evaluateAbsent (nested.registryAt 1)).matched = false := by
    rw [registryAt_nested]
    decide
  obtain ⟨hpresent, habsent⟩ := after_monotone nested 1 steadyStores newly
  exact ⟨newly, present, hpresent present, absent, habsent absent⟩

end Forest
end Activation
