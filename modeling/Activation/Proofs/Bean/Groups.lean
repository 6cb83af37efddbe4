import Activation.Proofs.Bean.Presence
import Activation.Proofs.Tables

/-!
# How a match is made up

A match sorts the criteria of a query into six groups, and keeps a list of all beans found
beside them.  Types and annotations that are found are kept in tables, once each with their beans.
The other groups are lists, in which a criterion stands as often as it is asked for.  Whatever is
repeated, the groups and the list of beans have to agree (`BeanMatches.Consistent`).

All groups are read off the same names: for each criterion, those that the scopes list for it and
that count (`BeanQuery.counted`, `BeanQuery.matchesIn_eq`).

* `BeanQuery.met_matchesIn`, `BeanQuery.unmet_matchesIn`, `BeanQuery.beansFor_matchesIn`: which
  criteria the groups hold, and with which beans.
* `BeanQuery.beans_matchesIn`: the list of all beans, in the order in which they are found.
* `BeanMatches.Consistent.unique`: a query has no two consistent matches with the same scopes.
* `BeanQuery.matchesOf_consistent`: the match of any query with any registry is consistent.
-/

namespace Activation

/-- The names that scopes list for a criterion, whether they count or not. -/
def Criterion.listing (scopes : List Scope) : Criterion → List BeanName
  | .type wanted => Registry.names (·.hasType wanted) scopes
  | .mark wanted => Registry.names (·.isMarked wanted) scopes
  | .name wanted => [wanted].filter (Registry.defines scopes)

theorem Criterion.nodup_listing (scopes : List Scope) (criterion : Criterion) :
    (criterion.listing scopes).Nodup := by
  cases criterion with
  | type wanted => exact Registry.nodup_names
  | mark wanted => exact Registry.nodup_names
  | name wanted => exact (List.nodup_singleton wanted).filter _

/-! ## Consistent matches -/

namespace BeanMatches

/-- Whether a criterion is in its group of those for which there are beans. -/
def met (result : BeanMatches) : Criterion → Bool
  | .type wanted => result.foundTypes.contains wanted
  | .mark wanted => result.foundAnnotations.contains wanted
  | .name wanted => result.foundNames.contains wanted

/-- Whether a criterion is in its group of those for which there is no bean. -/
def unmet (result : BeanMatches) : Criterion → Bool
  | .type wanted => result.missingTypes.contains wanted
  | .mark wanted => result.missingAnnotations.contains wanted
  | .name wanted => result.missingNames.contains wanted

/-- The names that stand with a criterion in its group; a name stands for itself. -/
def beansFor (result : BeanMatches) : Criterion → List BeanName
  | .type wanted => result.foundTypes.getD wanted []
  | .mark wanted => result.foundAnnotations.getD wanted []
  | .name wanted => if result.foundNames.contains wanted then [wanted] else []

/-- **A match is consistent**, given the query and the scopes that are searched: its groups share
out what is asked for, each criterion has the beans that it finds, and the list of all beans holds
what the groups hold. -/
structure Consistent (result : BeanMatches) (query : BeanQuery) (scopes : List Scope) : Prop where
  /-- A criterion that is asked for is either met or unmet. -/
  unmet_eq : ∀ criterion ∈ query.criteria, result.unmet criterion = !result.met criterion
  /-- What is met or unmet is asked for. -/
  asked : ∀ criterion, result.met criterion = true ∨ result.unmet criterion = true →
    criterion ∈ query.criteria
  /-- The names that are met stand as they are asked for, in that order and as often. -/
  foundNames_eq : result.foundNames = query.names.filter fun name => result.met (.name name)
  /-- The types that are unmet stand as they are asked for. -/
  missingTypes_eq : result.missingTypes = query.types.filter fun type => !result.met (.type type)
  /-- The annotations that are unmet stand as they are asked for. -/
  missingAnnotations_eq :
    result.missingAnnotations = query.annotations.filter fun mark => !result.met (.mark mark)
  /-- The names that are unmet stand as they are asked for. -/
  missingNames_eq : result.missingNames = query.names.filter fun name => !result.met (.name name)
  /-- A criterion that is met has beans. -/
  beansFor_ne_nil : ∀ criterion, result.met criterion = true → result.beansFor criterion ≠ []
  /-- No bean of a criterion comes twice. -/
  nodup_beansFor : ∀ criterion, (result.beansFor criterion).Nodup
  /-- The beans of a criterion stand in the order in which the scopes list them. -/
  sublist_listing : ∀ criterion, (result.beansFor criterion).Sublist (criterion.listing scopes)
  /-- The beans of a criterion that is asked for are those that it finds. -/
  mem_beansFor : ∀ criterion name, name ∈ result.beansFor criterion ↔
    criterion ∈ query.criteria ∧ query.Finds scopes criterion name
  /-- None of them has the name of a searched bean of an ignored type. -/
  counts : ∀ criterion, ∀ name ∈ result.beansFor criterion, ¬query.Ignores scopes name
  /-- The beans of the match are those of its criteria. -/
  mem_beans : ∀ name, name ∈ result.beans ↔ ∃ criterion, name ∈ result.beansFor criterion
  /-- No bean of the match comes twice. -/
  nodup_beans : result.beans.Nodup
  /-- The beans of the match stand in the order in which they are first found, where the criteria
  come as they are asked for: the types, then the annotations, then the names. -/
  order : result.beans.Pairwise fun first second =>
    (query.criteria.flatMap result.beansFor).idxOf first <
      (query.criteria.flatMap result.beansFor).idxOf second
  /-- Something is found if there is a bean. -/
  isAny_iff : result.isAny = true ↔ result.beans ≠ []

/-! ## There is no other consistent match -/

variable {result other : BeanMatches} {query : BeanQuery} {scopes : List Scope}
  {criterion : Criterion}

/-- Only what is met has beans. -/
theorem beansFor_eq_nil (h : result.met criterion = false) : result.beansFor criterion = [] := by
  cases criterion with
  | type wanted => exact Std.ExtTreeMap.getD_eq_fallback_of_contains_eq_false h
  | mark wanted => exact Std.ExtTreeMap.getD_eq_fallback_of_contains_eq_false h
  | name wanted =>
    rw [met] at h
    rw [beansFor, h, if_neg Bool.false_ne_true]

/-- What is met in a consistent match is settled by the query and the scopes. -/
theorem Consistent.met_iff (h : result.Consistent query scopes) :
    result.met criterion = true ↔
      criterion ∈ query.criteria ∧ query.Meets scopes criterion := by
  constructor
  · intro hmet
    obtain ⟨name, hn⟩ := List.exists_mem_of_ne_nil _ (h.beansFor_ne_nil criterion hmet)
    obtain ⟨hc, hfinds⟩ := (h.mem_beansFor criterion name).mp hn
    exact ⟨hc, name, hfinds⟩
  · rintro ⟨hc, name, hfinds⟩
    have hn := (h.mem_beansFor criterion name).mpr ⟨hc, hfinds⟩
    by_contra hunmet
    rw [Bool.not_eq_true] at hunmet
    rw [beansFor_eq_nil hunmet] at hn
    exact List.not_mem_nil hn

/-- So are the beans of a criterion: which they are, and in which order. -/
theorem Consistent.beansFor_eq (h : result.Consistent query scopes)
    (h' : other.Consistent query scopes) (criterion : Criterion) :
    result.beansFor criterion = other.beansFor criterion := by
  have hperm : (result.beansFor criterion).Perm (other.beansFor criterion) :=
    (List.perm_ext_iff_of_nodup (h.nodup_beansFor criterion) (h'.nodup_beansFor criterion)).mpr
      fun name => (h.mem_beansFor criterion name).trans (h'.mem_beansFor criterion name).symm
  exact ((criterion.nodup_listing scopes).perm_iff_eq_of_sublist (h.sublist_listing criterion)
    (h'.sublist_listing criterion)).mp hperm

theorem Consistent.beans_eq (h : result.Consistent query scopes)
    (h' : other.Consistent query scopes) : result.beans = other.beans := by
  have hsame : result.beansFor = other.beansFor := funext (h.beansFor_eq h')
  have hperm : result.beans.Perm other.beans :=
    (List.perm_ext_iff_of_nodup h.nodup_beans h'.nodup_beans).mpr fun name => by
      rw [h.mem_beans, h'.mem_beans, hsame]
  -- both lists are sorted by the same first places, so they cannot differ in their order
  have horder := h'.order
  rw [← hsame] at horder
  refine hperm.eq_of_pairwise (fun first second _ _ hlt hgt => ?_) h.order horder
  exact absurd hgt (Nat.lt_asymm hlt)

/-- **A query has one consistent match** with given scopes. -/
theorem Consistent.unique (h : result.Consistent query scopes)
    (h' : other.Consistent query scopes) : result = other := by
  have hmet : result.met = other.met := funext fun criterion =>
    Bool.eq_iff_iff.mpr (h.met_iff.trans h'.met_iff.symm)
  have htypes : result.foundTypes = other.foundTypes :=
    Tables.ext_contains_getD [] (fun wanted => congrFun hmet (.type wanted)) fun wanted =>
      h.beansFor_eq h' (.type wanted)
  have hmarks : result.foundAnnotations = other.foundAnnotations :=
    Tables.ext_contains_getD [] (fun wanted => congrFun hmet (.mark wanted)) fun wanted =>
      h.beansFor_eq h' (.mark wanted)
  have hnames : result.foundNames = other.foundNames := by
    rw [h.foundNames_eq, h'.foundNames_eq, hmet]
  have hmissingTypes : result.missingTypes = other.missingTypes := by
    rw [h.missingTypes_eq, h'.missingTypes_eq, hmet]
  have hmissingMarks : result.missingAnnotations = other.missingAnnotations := by
    rw [h.missingAnnotations_eq, h'.missingAnnotations_eq, hmet]
  have hmissingNames : result.missingNames = other.missingNames := by
    rw [h.missingNames_eq, h'.missingNames_eq, hmet]
  have hbeans : result.beans = other.beans := h.beans_eq h'
  cases result
  cases other
  simp only [mk.injEq]
  exact ⟨htypes, hmarks, hnames, hmissingTypes, hmissingMarks, hmissingNames, hbeans⟩

end BeanMatches

namespace BeanQuery

variable {query : BeanQuery} {scopes : List Scope} {name : BeanName} {criterion : Criterion}

@[simp] theorem type_mem_criteria {wanted : String} :
    .type wanted ∈ query.criteria ↔ wanted ∈ query.types := by
  simp [criteria]

@[simp] theorem mark_mem_criteria {wanted : String} :
    .mark wanted ∈ query.criteria ↔ wanted ∈ query.annotations := by
  simp [criteria]

@[simp] theorem name_mem_criteria {wanted : BeanName} :
    .name wanted ∈ query.criteria ↔ wanted ∈ query.names := by
  simp [criteria]

/-! ## The names that count for a criterion -/

/-- The names that scopes list for a criterion and that count. -/
def counted (query : BeanQuery) (scopes : List Scope) (criterion : Criterion) : List BeanName :=
  (criterion.listing scopes).filter fun name => !(query.ignoredNames scopes).contains name

/-- They are the names that the criterion finds. -/
theorem mem_counted :
    name ∈ query.counted scopes criterion ↔ query.Finds scopes criterion name := by
  cases criterion with
  | type wanted => exact mem_sought_filter
  | mark wanted => exact mem_sought_filter
  | name wanted =>
    rw [finds_name_iff, counted, Criterion.listing, List.mem_filter, List.mem_filter,
      List.mem_singleton, Bool.not_eq_true', ← Bool.not_eq_true, contains_ignoredNames, and_assoc]

theorem nodup_counted : (query.counted scopes criterion).Nodup :=
  (criterion.nodup_listing scopes).filter _

/-- For a name, it is this name or none. -/
theorem counted_name (wanted : BeanName) :
    query.counted scopes (.name wanted) = [wanted].filter fun name =>
      !(query.ignoredNames scopes).contains name && Registry.defines scopes name :=
  List.filter_filter

theorem isEmpty_counted_name (wanted : BeanName) :
    (query.counted scopes (.name wanted)).isEmpty =
      !(!(query.ignoredNames scopes).contains wanted && Registry.defines scopes wanted) := by
  rw [counted_name, List.filter_singleton]
  cases !(query.ignoredNames scopes).contains wanted && Registry.defines scopes wanted <;> rfl

theorem counted_name_of_ne_nil {wanted : BeanName}
    (h : query.counted scopes (.name wanted) ≠ []) :
    query.counted scopes (.name wanted) = [wanted] := by
  rw [counted_name] at h ⊢
  exact (List.sublist_singleton.mp List.filter_sublist).resolve_left h

/-- Names that are kept one by one are kept from their list. -/
theorem flatMap_filter_singleton (names : List BeanName) (keep : BeanName → Bool) :
    (names.flatMap fun name => [name].filter keep) = names.filter keep := by
  induction names with
  | nil => rfl
  | cons name names ih =>
    rw [List.flatMap_cons, ih, ← List.filter_append, List.singleton_append]

/-- What counts for the criteria of a query, one after the other. -/
theorem flatMap_counted (query : BeanQuery) (scopes : List Scope) :
    query.criteria.flatMap (query.counted scopes) =
      (query.types.flatMap fun type => query.counted scopes (.type type)) ++
        (query.annotations.flatMap fun mark => query.counted scopes (.mark mark)) ++
        query.names.filter fun name =>
          !(query.ignoredNames scopes).contains name && Registry.defines scopes name := by
  rw [criteria, List.flatMap_append, List.flatMap_append, List.flatMap_map, List.flatMap_map,
    List.flatMap_map]
  simp only [counted_name, flatMap_filter_singleton]

/-! ## The groups, read off these names -/

theorem getElem?_found (asked : List String) (beans : String → List BeanName) (wanted : String) :
    (found (asked.map fun criterion => (criterion, beans criterion)))[wanted]? =
      if wanted ∈ asked ∧ beans wanted ≠ [] then some (beans wanted) else none := by
  rw [found, List.filter_map, Tables.getElem?_ofList_map]
  simp [List.mem_filter]

theorem contains_found {asked : List String} {beans : String → List BeanName} {wanted : String} :
    (found (asked.map fun criterion => (criterion, beans criterion))).contains wanted = true ↔
      wanted ∈ asked ∧ beans wanted ≠ [] := by
  rw [Std.ExtTreeMap.contains_eq_isSome_getElem?, getElem?_found]
  split
  · next h => exact iff_of_true rfl h
  · next h => exact iff_of_false Bool.false_ne_true h

theorem getD_found {asked : List String} {beans : String → List BeanName} {wanted : String} :
    (found (asked.map fun criterion => (criterion, beans criterion))).getD wanted [] =
      if (found (asked.map fun criterion => (criterion, beans criterion))).contains wanted
      then beans wanted else [] := by
  rw [Std.ExtTreeMap.getD_eq_getD_getElem?, Std.ExtTreeMap.contains_eq_isSome_getElem?,
    getElem?_found]
  split <;> rfl

theorem missing_map (asked : List String) (beans : String → List BeanName) :
    missing (asked.map fun criterion => (criterion, beans criterion)) =
      asked.filter fun criterion => (beans criterion).isEmpty := by
  rw [missing, List.filter_map, List.map_map]
  exact List.map_id _

/-- **A match, read off the names that count for its criteria.** -/
theorem matchesIn_eq (query : BeanQuery) (scopes : List Scope) :
    query.matchesIn scopes =
      { foundTypes := found (query.types.map fun type => (type, query.counted scopes (.type type)))
        foundAnnotations :=
          found (query.annotations.map fun mark => (mark, query.counted scopes (.mark mark)))
        foundNames := query.names.filter fun name => !(query.counted scopes (.name name)).isEmpty
        missingTypes := query.types.filter fun type => (query.counted scopes (.type type)).isEmpty
        missingAnnotations :=
          query.annotations.filter fun mark => (query.counted scopes (.mark mark)).isEmpty
        missingNames := query.names.filter fun name => (query.counted scopes (.name name)).isEmpty
        beans := (query.criteria.flatMap (query.counted scopes)).eraseDups } := by
  have htypes : sought (query.ignoredNames scopes) scopes Bean.hasType query.types =
      query.types.map fun type => (type, query.counted scopes (.type type)) := rfl
  have hmarks : sought (query.ignoredNames scopes) scopes Bean.isMarked query.annotations =
      query.annotations.map fun mark => (mark, query.counted scopes (.mark mark)) := rfl
  -- the names are sorted by a test of their own, which fails just where nothing counts
  rw [matchesIn, htypes, hmarks, List.partition_eq_filter_filter, missing_map, missing_map,
    flatMap_counted, List.flatMap_map, List.flatMap_map]
  simp only [isEmpty_counted_name, Bool.not_not]
  rfl

/-- **The criteria that are met** are those asked for that have a name that counts. -/
theorem met_matchesIn :
    (query.matchesIn scopes).met criterion = true ↔
      criterion ∈ query.criteria ∧ query.counted scopes criterion ≠ [] := by
  rw [matchesIn_eq]
  cases criterion with
  | type wanted => rw [BeanMatches.met, contains_found, type_mem_criteria]
  | mark wanted => rw [BeanMatches.met, contains_found, mark_mem_criteria]
  | name wanted =>
    rw [BeanMatches.met, List.contains_iff_mem, List.mem_filter, name_mem_criteria,
      Bool.not_eq_true', List.isEmpty_eq_false_iff]

/-- **The criteria that are unmet** are those asked for that have none. -/
theorem unmet_matchesIn :
    (query.matchesIn scopes).unmet criterion = true ↔
      criterion ∈ query.criteria ∧ query.counted scopes criterion = [] := by
  rw [matchesIn_eq]
  cases criterion <;> simp [BeanMatches.unmet]

theorem met_of_mem (h : criterion ∈ query.criteria) :
    (query.matchesIn scopes).met criterion = !(query.counted scopes criterion).isEmpty := by
  rw [Bool.eq_iff_iff, met_matchesIn, and_iff_right h, Bool.not_eq_true', List.isEmpty_eq_false_iff]

theorem unmet_of_mem (h : criterion ∈ query.criteria) :
    (query.matchesIn scopes).unmet criterion = (query.counted scopes criterion).isEmpty := by
  rw [Bool.eq_iff_iff, unmet_matchesIn, and_iff_right h, List.isEmpty_iff]

/-- **The beans of a criterion** that is met are the names that count for it. -/
theorem beansFor_matchesIn :
    (query.matchesIn scopes).beansFor criterion =
      if (query.matchesIn scopes).met criterion then query.counted scopes criterion else [] := by
  cases criterion with
  | type wanted =>
    rw [matchesIn_eq]
    exact getD_found
  | mark wanted =>
    rw [matchesIn_eq]
    exact getD_found
  | name wanted =>
    show (if (query.matchesIn scopes).met (.name wanted) then [wanted] else []) = _
    split
    · next hmet => rw [counted_name_of_ne_nil (met_matchesIn.mp hmet).2]
    · rfl

theorem beansFor_of_mem (h : criterion ∈ query.criteria) :
    (query.matchesIn scopes).beansFor criterion = query.counted scopes criterion := by
  rw [beansFor_matchesIn, met_of_mem h]
  cases query.counted scopes criterion <;> rfl

theorem beansFor_sublist :
    ((query.matchesIn scopes).beansFor criterion).Sublist (query.counted scopes criterion) := by
  rw [beansFor_matchesIn]
  split
  · exact List.Sublist.refl _
  · exact List.nil_sublist _

theorem mem_beansFor :
    name ∈ (query.matchesIn scopes).beansFor criterion ↔
      criterion ∈ query.criteria ∧ query.Finds scopes criterion name := by
  by_cases hc : criterion ∈ query.criteria
  · rw [beansFor_of_mem hc, mem_counted, and_iff_right hc]
  · have hunmet : (query.matchesIn scopes).met criterion = false := by
      rw [← Bool.not_eq_true, met_matchesIn]
      exact fun h => hc h.1
    rw [BeanMatches.beansFor_eq_nil hunmet]
    exact ⟨fun h => absurd h List.not_mem_nil, fun h => absurd h.1 hc⟩

/-- **The beans of a match** are those of the criteria, one after the other, each at the place
where it comes first. -/
theorem beans_matchesIn (query : BeanQuery) (scopes : List Scope) :
    (query.matchesIn scopes).beans =
      (query.criteria.flatMap (query.matchesIn scopes).beansFor).eraseDups := by
  rw [List.flatMap_congr fun criterion hc => beansFor_of_mem hc, matchesIn_eq]

/-- Of the criteria of one kind, those without a name that counts are those that are not met. -/
theorem filter_isEmpty_counted {asked : List String} {kind : String → Criterion}
    (h : ∀ wanted ∈ asked, kind wanted ∈ query.criteria) :
    (asked.filter fun wanted => (query.counted scopes (kind wanted)).isEmpty) =
      asked.filter fun wanted => !(query.matchesIn scopes).met (kind wanted) := by
  refine List.filter_congr fun wanted hw => ?_
  rw [met_of_mem (h wanted hw), Bool.not_not]

theorem missingTypes_matchesIn (query : BeanQuery) (scopes : List Scope) :
    (query.matchesIn scopes).missingTypes =
      query.types.filter fun type => !(query.matchesIn scopes).met (.type type) :=
  (congrArg BeanMatches.missingTypes (matchesIn_eq query scopes)).trans
    (filter_isEmpty_counted fun _ => type_mem_criteria.mpr)

theorem missingAnnotations_matchesIn (query : BeanQuery) (scopes : List Scope) :
    (query.matchesIn scopes).missingAnnotations =
      query.annotations.filter fun mark => !(query.matchesIn scopes).met (.mark mark) :=
  (congrArg BeanMatches.missingAnnotations (matchesIn_eq query scopes)).trans
    (filter_isEmpty_counted fun _ => mark_mem_criteria.mpr)

theorem missingNames_matchesIn (query : BeanQuery) (scopes : List Scope) :
    (query.matchesIn scopes).missingNames =
      query.names.filter fun name => !(query.matchesIn scopes).met (.name name) :=
  (congrArg BeanMatches.missingNames (matchesIn_eq query scopes)).trans
    (filter_isEmpty_counted fun _ => name_mem_criteria.mpr)

theorem foundNames_matchesIn (query : BeanQuery) (scopes : List Scope) :
    (query.matchesIn scopes).foundNames =
      query.names.filter fun name => (query.matchesIn scopes).met (.name name) := by
  refine (congrArg BeanMatches.foundNames (matchesIn_eq query scopes)).trans ?_
  exact List.filter_congr fun name hn => (met_of_mem (name_mem_criteria.mpr hn)).symm

theorem isAny_iff_beans_ne_nil :
    (query.matchesIn scopes).isAny = true ↔ (query.matchesIn scopes).beans ≠ [] := by
  rw [isAny_iff, ← List.isEmpty_eq_false_iff, List.isEmpty_eq_false_iff_exists_mem]
  simp only [mem_beans]
  exact ⟨fun ⟨criterion, hc, name, hfinds⟩ => ⟨name, criterion, hc, hfinds⟩,
    fun ⟨name, criterion, hc, hfinds⟩ => ⟨criterion, hc, name, hfinds⟩⟩

/-! ## Every match is consistent -/

theorem consistent_matchesIn (query : BeanQuery) (scopes : List Scope) :
    (query.matchesIn scopes).Consistent query scopes where
  unmet_eq := by
    intro criterion hc
    rw [unmet_of_mem hc, met_of_mem hc, Bool.not_not]
  asked := by
    rintro criterion (hmet | hunmet)
    · exact (met_matchesIn.mp hmet).1
    · exact (unmet_matchesIn.mp hunmet).1
  foundNames_eq := foundNames_matchesIn query scopes
  missingTypes_eq := missingTypes_matchesIn query scopes
  missingAnnotations_eq := missingAnnotations_matchesIn query scopes
  missingNames_eq := missingNames_matchesIn query scopes
  beansFor_ne_nil := by
    intro criterion hmet
    obtain ⟨hc, hne⟩ := met_matchesIn.mp hmet
    rwa [beansFor_of_mem hc]
  nodup_beansFor := fun _ => nodup_counted.sublist beansFor_sublist
  sublist_listing := fun _ => beansFor_sublist.trans List.filter_sublist
  mem_beansFor := fun _ _ => mem_beansFor
  counts := fun _ _ hn => (mem_beansFor.mp hn).2.2
  mem_beans := by
    intro name
    rw [mem_beans, Matches]
    simp only [mem_beansFor]
  nodup_beans := nodup_beans
  order := by
    rw [beans_matchesIn]
    exact Repetition.pairwise_idxOf_eraseDups _
  isAny_iff := isAny_iff_beans_ne_nil

/-- **The match of a query with a registry** is consistent with the scopes that are searched, and
no other match is. -/
theorem matchesOf_consistent (query : BeanQuery) (registry : Registry) :
    (query.matchesOf registry).Consistent query (registry.searched query.search) ∧
      ∀ result : BeanMatches, result.Consistent query (registry.searched query.search) →
        result = query.matchesOf registry := by
  have hconsistent := consistent_matchesIn query (registry.searched query.search)
  exact ⟨hconsistent, fun _ h => h.unique hconsistent⟩

/-- A type that is asked for twice is kept once if it is found, and a name twice.  A driver of the
outer scope takes the disk out of all groups. -/
example :
    let query : BeanQuery :=
      { types := ["Store", "Cache", "Store", "Cache"], names := ["tape", "disk", "tape"]
        ignoredTypes := ["Driver"] }
    let registry : Registry :=
      { current := .ofList [{ name := "disk", types := ["Store"] },
          { name := "memory", types := ["Store"] }]
        ancestors := [.ofList [{ name := "disk", types := ["Driver"] },
          { name := "tape", types := ["Store"] }]] }
    let result := query.matchesOf registry
    result.foundTypes.toList = [("Store", ["memory", "tape"])] ∧
      result.missingTypes = ["Cache", "Cache"] ∧ result.foundNames = ["tape", "tape"] ∧
      result.missingNames = ["disk"] ∧ result.beans = ["memory", "tape"] := by
  cbv

end BeanQuery
end Activation
