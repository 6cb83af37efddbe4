import Activation.Proofs.Bean.Query

/-!
# What a single candidate rests on

Two questions about the condition that the beans single out a candidate.

The first is which bean decides.  Beans are found in each scope for what they are, but the
mark of a primary bean is that of the nearest bean of the name.  So where one bean hides
another, the mark need not belong to a bean that was found.

* `BeanQuery.evaluateSingle_decided`: the bean whose mark decides is wanted itself, or it
  hides a bean that is.  The latter does happen: `BeanQuery.evaluateSingle_decided_by_hider`.

The second is which types are asked for.  A query is checked by the types that can tell
candidates apart, of which there must be one, while it is matched by all types as they are
written.

* `BeanQuery.evaluateSingle_narrowed`: the verdict is that of the one type if the written
  types find the same names, and if one of them finds none, then nothing is singled out.
  So a type that was passed over in the check can spoil the candidate:
  `BeanQuery.evaluateSingle_spoiled`.
-/

namespace Activation

namespace Registry

variable {scopes : List Scope} {p : Bean → Prop} {name : BeanName} {bean : Bean}

/-- One bean hides another: they have the same name, and the other is in a scope further
out. -/
def Hides (scopes : List Scope) (bean hidden : Bean) : Prop :=
  hidden.name = bean.name ∧ ∃ inner scope outer, scopes = inner ++ scope :: outer ∧
    bean ∈ scope.beans ∧ ∃ other ∈ outer, hidden ∈ other.beans

/-- **A name borne by a bean with a property** means such a bean or one that hides it. -/
theorem Means.of_bears (hmeans : Means scopes name bean) (hbears : Bears scopes p name) :
    p bean ∨ ∃ hidden, Hides scopes bean hidden ∧ p hidden := by
  obtain ⟨inner, scope, outer, rfl, hinner, hbean, hname⟩ := hmeans
  obtain ⟨other, hother, found, hfound, hfoundname, hp⟩ := hbears
  rw [List.mem_append, List.mem_cons] at hother
  rcases hother with hin | rfl | hout
  · exact absurd hfoundname (hinner other hin found hfound)
  · -- a scope has one bean of a name
    have hsame : found = bean :=
      List.inj_on_of_nodup_map other.distinct hfound hbean (hfoundname.trans hname.symm)
    exact Or.inl (hsame ▸ hp)
  · exact Or.inr ⟨found, ⟨hfoundname.trans hname.symm, inner, scope, outer, rfl, hbean, other,
      hout, hfound⟩, hp⟩

end Registry

namespace BeanQuery

open Registry

variable {query : BeanQuery} {scopes : List Scope} {name : BeanName}

/-! ## The bean that decides -/

/-- A bean is what some criterion of a query asks for. -/
def Wants (query : BeanQuery) (bean : Bean) : Prop :=
  ∃ criterion ∈ query.criteria, criterion.Fits bean

theorem Matches.bears_wants (h : query.Matches scopes name) : Bears scopes query.Wants name := by
  obtain ⟨criterion, hc, ⟨scope, hs, bean, hb, hname, hfits⟩, -⟩ := h
  exact ⟨scope, hs, bean, hb, hname, criterion, hc, hfits⟩

/-- **The bean that decides** between several names.  If all scopes are searched and several
names are found, then the condition holds by the mark of one bean, which is the nearest of its
name.  This bean is wanted itself, or it hides one that is wanted. -/
theorem evaluateSingle_decided (query : BeanQuery) (registry : Registry)
    (everywhere : query.search = .all)
    (matched : (query.evaluateSingle registry).matched = true)
    (several : ∃ name other, name ≠ other ∧ query.Matches (registry.searched .all) name ∧
      query.Matches (registry.searched .all) other) :
    ∃ name bean, query.Matches (registry.searched .all) name ∧
      nearest? (registry.scopes true) name = some bean ∧ bean.primary = true ∧
      (∀ other, query.Matches (registry.searched .all) other →
        registry.isPrimary other true = true → other = name) ∧
      (query.Wants bean ∨
        ∃ hidden, Hides (registry.scopes true) bean hidden ∧ query.Wants hidden) := by
  rw [matched_evaluateSingle_iff, everywhere] at matched
  obtain ⟨-, hone | ⟨name, ⟨hmatches, hprimary⟩, hunique⟩⟩ := matched
  · obtain ⟨name, other, hne, hname, hother⟩ := several
    exact absurd (hone.unique hname hother) hne
  · obtain ⟨bean, hmeans, hmark⟩ := hprimary
    refine ⟨name, bean, hmatches, nearest?_eq_some_iff.mpr hmeans, hmark, ?_, ?_⟩
    · intro other hother hp
      exact hunique other ⟨hother, any_nearest?_iff.mp hp⟩
    · exact hmeans.of_bears hmatches.bears_wants

/-- A query for the beans of a type in all scopes. -/
def storeQuery : BeanQuery := .ofType "Store"

/-- A store and another bean that is the primary one, within a scope with two more stores, one
of them of the name of the other bean. -/
def twoScopes : Registry where
  current := .ofList [{ name := "tape", types := ["Store"] },
    { name := "disk", types := ["Driver", "Store"], primary := true }]
  ancestors := [.ofList [{ name := "disk", types := ["Driver"] },
    { name := "memory", types := ["Store"] }]]

theorem beans_twoScopes :
    (storeQuery.matchesIn (twoScopes.searched .all)).beans = ["tape", "disk", "memory"] := by
  decide

/-- Of three stores in two scopes, one is singled out by its mark. -/
theorem evaluateSingle_decided_twoScopes :
    storeQuery.search = .all ∧ (storeQuery.evaluateSingle twoScopes).matched = true ∧
    (∃ name other, name ≠ other ∧ storeQuery.Matches (twoScopes.searched .all) name ∧
      storeQuery.Matches (twoScopes.searched .all) other) ∧
    ∃ name bean, storeQuery.Matches (twoScopes.searched .all) name ∧
      nearest? (twoScopes.scopes true) name = some bean ∧ bean.primary = true ∧
      (storeQuery.Wants bean ∨
        ∃ hidden, Hides (twoScopes.scopes true) bean hidden ∧ storeQuery.Wants hidden) := by
  have matched : (storeQuery.evaluateSingle twoScopes).matched = true := by
    decide
  have several : ∃ name other, name ≠ other ∧
      storeQuery.Matches (twoScopes.searched .all) name ∧
      storeQuery.Matches (twoScopes.searched .all) other := by
    refine ⟨"tape", "memory", by decide, ?_, ?_⟩
    · rw [← mem_beans, beans_twoScopes]
      decide
    · rw [← mem_beans, beans_twoScopes]
      decide
  obtain ⟨name, bean, hname, hbean, hprimary, -, hwants⟩ :=
    evaluateSingle_decided storeQuery twoScopes rfl matched several
  exact ⟨rfl, matched, several, name, bean, hname, hbean, hprimary, hwants⟩

/-- A primary bean that is no store, within a scope with three stores, one of them of its
name. -/
def hiddenStore : Registry where
  current := .ofList [{ name := "disk", types := ["Driver"], primary := true }]
  ancestors := [.ofList [{ name := "disk", types := ["Store"] },
    { name := "memory", types := ["Store"] }, { name := "tape", types := ["Store"] }]]

theorem wants_storeQuery {bean : Bean} : storeQuery.Wants bean ↔ bean.hasType "Store" = true := by
  rw [Wants, exists_mem_criteria]
  simp [storeQuery, ofType, Criterion.Fits]

/-- **A candidate singled out by the mark of another bean.**  Three stores are found, and none of
them is marked as primary.  But the name of one means a driver that hides it, and the mark of that
driver decides, although no driver is asked for. -/
theorem evaluateSingle_decided_by_hider :
    (Rule.requiresSingleBean storeQuery).fault? = none ∧ storeQuery.search = .all ∧
    (storeQuery.evaluateSingle hiddenStore).matched = true ∧
    storeQuery.Matches (hiddenStore.searched .all) "memory" ∧
    storeQuery.Matches (hiddenStore.searched .all) "tape" ∧
    ∀ name bean, storeQuery.Matches (hiddenStore.searched .all) name →
      nearest? (hiddenStore.scopes true) name = some bean → bean.primary = true →
        ¬storeQuery.Wants bean := by
  have hbeans : (storeQuery.matchesIn (hiddenStore.searched .all)).beans =
      ["disk", "memory", "tape"] := by
    decide
  have hdeciding : ∀ name ∈ ["disk", "memory", "tape"],
      ∀ bean ∈ nearest? (hiddenStore.scopes true) name, bean.primary = true →
        bean.hasType "Store" = false := by
    decide
  refine ⟨by decide, rfl, by decide, ?_, ?_, ?_⟩
  · rw [← mem_beans, hbeans]
    decide
  · rw [← mem_beans, hbeans]
    decide
  · intro name bean hname hbean hprimary
    rw [← mem_beans, hbeans] at hname
    rw [wants_storeQuery, hdeciding name hname bean hbean hprimary]
    exact Bool.false_ne_true

/-! ## The types that are asked for -/

/-- A query that asks for one type in place of all its types. -/
def narrowed (query : BeanQuery) (type : String) : BeanQuery :=
  { query with types := [type] }

theorem candidateTypes_of_fault?_eq_none (h : (Rule.requiresSingleBean query).fault? = none) :
    ∃ type, query.candidateTypes = [type] := by
  rw [Rule.fault?, Rule.singleFault?] at h
  by_cases he : query.isEmpty = true
  · rw [if_pos he] at h
    cases h
  · rw [if_neg he] at h
    by_cases hone : query.candidateTypes.length = 1
    · exact List.length_eq_one_iff.mp hone
    · rw [if_neg hone] at h
      cases h

/-- A type that tells candidates apart stands among the types as they are written. -/
theorem types_ne_nil_of_candidateTypes {type : String} (h : query.candidateTypes = [type]) :
    query.types ≠ [] := by
  intro hnil
  rw [candidateTypes, hnil] at h
  cases h

/-- Asking for one type in place of several that find the same names changes nothing in what
is found. -/
theorem matches_narrowed_iff {type : String}
    (hsame : ∀ name, (∃ written ∈ query.types, query.Finds scopes (.type written) name) ↔
      query.Finds scopes (.type type) name) :
    (query.narrowed type).Matches scopes name ↔ query.Matches scopes name := by
  have htype : (∃ written ∈ (query.narrowed type).types,
      (query.narrowed type).Finds scopes (.type written) name) ↔
        ∃ written ∈ query.types, query.Finds scopes (.type written) name := by
    rw [hsame]
    constructor
    · rintro ⟨written, hw, hfinds⟩
      rw [List.mem_singleton.mp hw] at hfinds
      exact hfinds
    · intro hfinds
      exact ⟨type, List.mem_singleton_self type, hfinds⟩
  rw [Matches, Matches, exists_mem_criteria, exists_mem_criteria, htype]
  rfl

/-- A query whose types find the same names as one type singles out a candidate if the query
for that type does. -/
theorem hasCandidate_narrowed_iff {type : String} {marking : List Scope}
    (hne : query.types ≠ [])
    (hmet : ∀ written ∈ query.types, query.Meets scopes (.type written))
    (hsame : ∀ name, (∃ written ∈ query.types, query.Finds scopes (.type written) name) ↔
      query.Finds scopes (.type type) name) :
    (query.narrowed type).HasCandidate scopes marking ↔ query.HasCandidate scopes marking := by
  have hcomplete : (∀ criterion ∈ (query.narrowed type).criteria,
      (query.narrowed type).Meets scopes criterion) ↔
        ∀ criterion ∈ query.criteria, query.Meets scopes criterion := by
    rw [forall_mem_criteria, forall_mem_criteria]
    refine and_congr ⟨fun _ => hmet, fun _ written hw => ?_⟩ Iff.rfl
    obtain ⟨first, hfirst⟩ := List.exists_mem_of_ne_nil query.types hne
    obtain ⟨name, hname⟩ := hmet first hfirst
    rw [List.mem_singleton.mp hw]
    exact ⟨name, (hsame name).mp ⟨first, hfirst, hname⟩⟩
  have hmatches : ∀ name,
      (query.narrowed type).Matches scopes name ↔ query.Matches scopes name :=
    fun name => matches_narrowed_iff hsame
  rw [HasCandidate, HasCandidate, hcomplete]
  simp only [hmatches]

/-- **The verdict of the type that was counted.**  Of the types of a query that is not at fault,
one tells candidates apart.  If each type finds a name as it is written, and together they find
just what that one type finds, then the verdict is the same as if it alone were asked for.  But
if a type finds no name as it is written, be it one that does not count, then no candidate is
singled out. -/
theorem evaluateSingle_narrowed (query : BeanQuery) (registry : Registry)
    (valid : (Rule.requiresSingleBean query).fault? = none) :
    ∃ type, query.candidateTypes = [type] ∧
      ((∀ written ∈ query.types, query.Meets (registry.searched query.search) (.type written)) →
        (∀ name, (∃ written ∈ query.types,
            query.Finds (registry.searched query.search) (.type written) name) ↔
          query.Finds (registry.searched query.search) (.type type) name) →
        (query.evaluateSingle registry).matched =
          ((query.narrowed type).evaluateSingle registry).matched) ∧
      ((∃ written ∈ query.types,
          ¬query.Meets (registry.searched query.search) (.type written)) →
        (query.evaluateSingle registry).matched = false) := by
  obtain ⟨type, htype⟩ := candidateTypes_of_fault?_eq_none valid
  refine ⟨type, htype, fun hmet hsame => ?_, ?_⟩
  · rw [Bool.eq_iff_iff, matched_evaluateSingle_iff, matched_evaluateSingle_iff]
    exact (hasCandidate_narrowed_iff (types_ne_nil_of_candidateTypes htype) hmet hsame).symm
  · rintro ⟨written, hw, hunmet⟩
    rw [← Bool.not_eq_true, matched_evaluateSingle_iff]
    intro hcandidate
    exact hunmet ((forall_mem_criteria.mp hcandidate.1).1 written hw)

/-- A query that names the type of everything beside the type that it is about. -/
def catchAllQuery : BeanQuery where
  types := ["Store", "Object"]

/-- A store of which it is said that it is an object, too. -/
def objectStore : Registry where
  current := .ofList [{ name := "disk", types := ["Store", "Object"] }]

/-- Each type of the query finds the one store as it is written. -/
theorem finds_objectStore {written : String} (h : written ∈ catchAllQuery.types)
    (name : BeanName) :
    catchAllQuery.Finds (objectStore.searched .all) (.type written) name ↔ name = "disk" := by
  have hfound : ∀ written ∈ catchAllQuery.types,
      (Registry.names (Bean.hasType · written) (objectStore.searched .all)).filter (fun name =>
        !(catchAllQuery.ignoredNames (objectStore.searched .all)).contains name) = ["disk"] := by
    decide
  have hmem : catchAllQuery.Finds (objectStore.searched .all) (.type written) name ↔
      name ∈ (Registry.names (Bean.hasType · written) (objectStore.searched .all)).filter
        fun name => !(catchAllQuery.ignoredNames (objectStore.searched .all)).contains name :=
    mem_sought_filter.symm
  rw [hmem, hfound written h, List.mem_singleton]

/-- Where every store is an object, too, the type of everything does no harm. -/
theorem evaluateSingle_narrowed_objectStore :
    (Rule.requiresSingleBean catchAllQuery).fault? = none ∧
    (catchAllQuery.evaluateSingle objectStore).matched =
      ((catchAllQuery.narrowed "Store").evaluateSingle objectStore).matched := by
  have valid : (Rule.requiresSingleBean catchAllQuery).fault? = none := by
    decide
  obtain ⟨type, htype, hsame, -⟩ := evaluateSingle_narrowed catchAllQuery objectStore valid
  have hcounted : catchAllQuery.candidateTypes = ["Store"] := by
    decide
  rw [hcounted] at htype
  obtain rfl : "Store" = type := (List.cons.inj htype).1
  refine ⟨valid, hsame (fun written hw => ?_) fun name => ?_⟩
  · exact ⟨"disk", (finds_objectStore hw "disk").mpr rfl⟩
  · constructor
    · rintro ⟨written, hw, hfinds⟩
      have hname : name = "disk" := (finds_objectStore hw name).mp hfinds
      exact (finds_objectStore (by decide) name).mpr hname
    · intro hfinds
      exact ⟨"Store", by decide, hfinds⟩

/-- A store of which nothing else is said. -/
def plainStore : Registry where
  current := .ofList [{ name := "disk", types := ["Store"] }]

/-- **A candidate that is spoiled** by a type that does not count.  The check passes over the
type of everything, and the one store there is would be singled out by the type that is left.
But the store is not known as an object, and so the query as it is written finds too little. -/
theorem evaluateSingle_spoiled :
    (Rule.requiresSingleBean catchAllQuery).fault? = none ∧
    catchAllQuery.candidateTypes = ["Store"] ∧
    ((catchAllQuery.narrowed "Store").evaluateSingle plainStore).matched = true ∧
    (catchAllQuery.evaluateSingle plainStore).matched = false := by
  refine ⟨?_, ?_, ?_, ?_⟩ <;> decide

end BeanQuery
end Activation
