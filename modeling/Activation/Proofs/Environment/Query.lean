import Activation.Environment.Query
import Activation.Proofs.Text.Trimmed
import Mathlib.Data.List.Basic

/-!
# When properties have the expected value

A query is about the values of keys, and a key has the value that the first source gives it
that shows it (`Environment.Shows`).  Whether the value will do is settled in two steps.  It
suits the query if it equals the expected value, with or without the blanks around it, and
whatever the case of its letters (`PropertyQuery.Suits`).  But only the value is trimmed and
the expected value is not, so an expected value with blanks around it is met by no value at
all, not even by itself (`PropertyQuery.Admits`).

* `Environment.get?_eq_some_iff`, `Environment.get?_eq_none_iff`: what a look-up finds.
* `PropertyQuery.isKey_iff`: the key under which a property is looked up.
* `PropertyQuery.accepts_iff`: the values that will do.
* `PropertyQuery.evaluate_compares`: when a query is met, and which properties are reported
  if it is not.
* `PropertyQuery.evaluate_rejects_identical`: a value that equals the expected one and is
  turned down.
-/

namespace Activation

/-! ## Layered look-up -/

namespace Environment

variable {env : Environment} {key value : String}

/-- **A key has a value**: the first source that shows the key gives it that value. -/
def Shows (env : Environment) (key value : String) : Prop :=
  ∃ before source after, env.sources = before ++ source :: after ∧
    source.get? key = some value ∧ ∀ other ∈ before, other.get? key = none

/-- No source shows a key. -/
def Lacks (env : Environment) (key : String) : Prop :=
  ∀ source ∈ env.sources, source.get? key = none

theorem get?_eq_some_iff : env.get? key = some value ↔ env.Shows key value :=
  List.findSome?_eq_some_iff

theorem get?_eq_none_iff : env.get? key = none ↔ env.Lacks key :=
  List.findSome?_eq_none_iff

end Environment

namespace PropertyQuery

variable (query : PropertyQuery) (env : Environment)

/-! ## Keys -/

/-- **The key of a property**: its name behind the beginning of all keys without the blanks
around it, with a dot between them unless there is one or nothing in front. -/
inductive IsKey (name : String) : String → Prop
  | bare : Text.trim query.stem = "" → IsKey name name
  | dotted {front : String} :
      Text.trim query.stem = front ++ "." → IsKey name (Text.trim query.stem ++ name)
  | joined : Text.trim query.stem ≠ "" → (∀ front, Text.trim query.stem ≠ front ++ ".") →
      IsKey name (Text.trim query.stem ++ "." ++ name)

variable {query env}

theorem getLast?_eq_dot_iff {s : String} :
    s.toList.getLast? = some '.' ↔ ∃ front, s = front ++ "." := by
  rw [List.getLast?_eq_some_iff]
  constructor
  · rintro ⟨cs, hcs⟩
    refine ⟨String.ofList cs, String.toList_injective ?_⟩
    rw [hcs, String.toList_append, String.toList_ofList]
    rfl
  · rintro ⟨front, rfl⟩
    exact ⟨front.toList, String.toList_append⟩

/-- No dot is needed behind the beginning of all keys. -/
theorem keyStem_eq (h : Text.trim query.stem = "" ∨ ∃ front, Text.trim query.stem = front ++ ".") :
    query.keyStem = Text.trim query.stem := by
  unfold keyStem
  refine if_pos ?_
  rwa [Bool.or_eq_true, String.isEmpty_iff, beq_iff_eq, getLast?_eq_dot_iff]

/-- A dot is needed behind the beginning of all keys. -/
theorem keyStem_eq_append (hne : Text.trim query.stem ≠ "")
    (hdot : ∀ front, Text.trim query.stem ≠ front ++ ".") :
    query.keyStem = Text.trim query.stem ++ "." := by
  unfold keyStem
  refine if_neg ?_
  rw [Bool.or_eq_true, String.isEmpty_iff, beq_iff_eq, getLast?_eq_dot_iff]
  rintro (hempty | ⟨front, hfront⟩)
  · exact hne hempty
  · exact hdot front hfront

/-- **A property is looked up under its key.** -/
theorem isKey_iff {name key : String} : query.IsKey name key ↔ key = query.key name := by
  unfold PropertyQuery.key
  constructor
  · intro h
    cases h with
    | bare hempty => rw [keyStem_eq (.inl hempty), hempty, String.empty_append]
    | dotted hdot => rw [keyStem_eq (.inr ⟨_, hdot⟩)]
    | joined hne hdot => rw [keyStem_eq_append hne hdot]
  · rintro rfl
    by_cases hempty : Text.trim query.stem = ""
    · rw [keyStem_eq (.inl hempty), hempty, String.empty_append]
      exact .bare hempty
    · by_cases hdot : ∃ front, Text.trim query.stem = front ++ "."
      · rw [keyStem_eq (.inr hdot)]
        obtain ⟨front, hfront⟩ := hdot
        exact .dotted hfront
      · rw [keyStem_eq_append hempty (not_exists.mp hdot)]
        exact .joined hempty (not_exists.mp hdot)

/-! ## Values -/

/-- **A value suits a query**: with no value expected, it is not `false`; otherwise it equals
the expected value as it stands or without the blanks around it. -/
def Suits (query : PropertyQuery) (value : String) : Prop :=
  if query.expected = "" then Text.sameLetters (Text.trim value) "false" = false
  else Text.sameLetters value query.expected = true ∨
    Text.sameLetters (Text.trim value) query.expected = true

/-- **A value will do** if it suits the query and the expected value has no blanks around
it. -/
structure Admits (query : PropertyQuery) (value : String) : Prop where
  /-- The value suits. -/
  suits : query.Suits value
  /-- There are no blanks around the expected value. -/
  trimmed : Text.trim query.expected = query.expected

/-- **The values that will do.** -/
theorem accepts_iff {value : String} : query.accepts value = true ↔ query.Admits value := by
  by_cases hempty : query.expected = ""
  · have haccepts : query.accepts value = true ↔
        Text.sameLetters (Text.trim value) "false" = false := by
      simp [accepts, hempty]
    rw [haccepts]
    constructor
    · intro h
      exact ⟨by rwa [Suits, if_pos hempty], by rw [hempty]; rfl⟩
    · intro h
      have hsuits := h.suits
      rwa [Suits, if_pos hempty] at hsuits
  · have haccepts : query.accepts value = true ↔
        Text.sameLetters (Text.trim value) query.expected = true := by
      simp [accepts, hempty]
    rw [haccepts]
    constructor
    · intro h
      refine ⟨by rw [Suits, if_neg hempty]; exact .inr h, ?_⟩
      exact Text.trim_eq_of_sameLetters h (Text.trim_trim value)
    · intro h
      have hsuits := h.suits
      rw [Suits, if_neg hempty] at hsuits
      rcases hsuits with hself | htrimmed
      · -- the expected value has no blanks around it, so the value has none either
        have hvalue : Text.trim value = value :=
          Text.trim_eq_of_sameLetters (Text.sameLetters_comm hself) h.trimmed
        rwa [hvalue]
      · exact htrimmed

/-! ## Verdicts -/

/-- A property should be there and is not. -/
def IsMissing (query : PropertyQuery) (env : Environment) (name : String) : Prop :=
  query.missingMatches = false ∧ ∃ key, query.IsKey name key ∧ env.Lacks key

/-- A property has a value that will not do. -/
def IsDifferent (query : PropertyQuery) (env : Environment) (name : String) : Prop :=
  ∃ key value, query.IsKey name key ∧ env.Shows key value ∧ ¬query.Admits value

/-- A property is as the query wants it: it need not be there and is not, or it has a value
that will do. -/
def IsSatisfied (query : PropertyQuery) (env : Environment) (name : String) : Prop :=
  ∃ key, query.IsKey name key ∧
    ((env.Lacks key ∧ query.missingMatches = true) ∨
      ∃ value, env.Shows key value ∧ query.Admits value)

variable {name : String}

theorem isMissing_iff : query.IsMissing env name ↔
    (!query.missingMatches && (env.get? (query.key name)).isNone) = true := by
  simp only [IsMissing, isKey_iff, exists_eq_left, Bool.and_eq_true, Bool.not_eq_true',
    Option.isNone_iff_eq_none, Environment.get?_eq_none_iff]

theorem isDifferent_iff : query.IsDifferent env name ↔
    ((env.get? (query.key name)).any fun value => !query.accepts value) = true := by
  simp only [IsDifferent, isKey_iff, Option.any_eq_true, Environment.get?_eq_some_iff,
    Bool.not_eq_true', ← Bool.not_eq_true, accepts_iff]
  constructor
  · rintro ⟨key, value, rfl, h⟩
    exact ⟨value, h⟩
  · rintro ⟨value, h⟩
    exact ⟨_, value, rfl, h⟩

instance : Decidable (query.IsMissing env name) := decidable_of_iff _ isMissing_iff.symm

instance : Decidable (query.IsDifferent env name) := decidable_of_iff _ isDifferent_iff.symm

/-- The properties that are reported as missing. -/
theorem missing_eq_filter : query.missing env = query.names.filter (query.IsMissing env) := by
  refine List.filter_congr fun name _ => ?_
  rw [Bool.eq_iff_iff, decide_eq_true_iff, isMissing_iff]

/-- The properties that are reported as having a different value. -/
theorem different_eq_filter :
    query.different env = query.names.filter (query.IsDifferent env) := by
  refine List.filter_congr fun name _ => ?_
  rw [Bool.eq_iff_iff, decide_eq_true_iff, isDifferent_iff]

/-- **A property is as wanted** if it is neither missing nor different. -/
theorem isSatisfied_iff : query.IsSatisfied env name ↔
    ¬query.IsMissing env name ∧ ¬query.IsDifferent env name := by
  simp only [IsSatisfied, IsMissing, IsDifferent, isKey_iff, exists_eq_left,
    ← Environment.get?_eq_none_iff, ← Environment.get?_eq_some_iff]
  cases hget : env.get? (query.key name) with
  | none => simp [hget]
  | some value => simp [hget]

theorem matched_evaluate (query : PropertyQuery) (env : Environment) :
    (query.evaluate env).matched =
      ((query.missing env).isEmpty && (query.different env).isEmpty) := by
  rw [evaluate]
  cases (query.missing env).isEmpty with
  | false => rfl
  | true =>
    cases (query.different env).isEmpty with
    | false => rfl
    | true => rfl

/-- A query is met if all of its properties are as it wants them. -/
theorem matched_evaluate_iff :
    (query.evaluate env).matched = true ↔ ∀ name ∈ query.names, query.IsSatisfied env name := by
  rw [matched_evaluate, Bool.and_eq_true, List.isEmpty_iff, List.isEmpty_iff, missing_eq_filter,
    different_eq_filter, List.filter_eq_nil_iff, List.filter_eq_nil_iff]
  simp only [decide_eq_true_iff, isSatisfied_iff]
  constructor
  · rintro ⟨hmissing, hdifferent⟩ name hn
    exact ⟨hmissing name hn, hdifferent name hn⟩
  · intro h
    exact ⟨fun name hn => (h name hn).1, fun name hn => (h name hn).2⟩

/-- What is said if a query is not met. -/
theorem message_evaluate (h : (query.evaluate env).matched = false) :
    (query.evaluate env).message = .aboutDetail .onProperty query.describe
      (if query.missing env = [] then
        .found ⟨"different value in property", "different value in properties"⟩ .quoted
          (query.different env)
      else .didNotFind ⟨"property", "properties"⟩ .quoted (query.missing env)) := by
  rw [matched_evaluate] at h
  rw [evaluate]
  cases hmissing : query.missing env with
  | cons name names => rfl
  | nil =>
    rw [hmissing] at h
    cases hdifferent : query.different env with
    | cons name names => rfl
    | nil =>
      rw [hdifferent] at h
      exact nomatch h

/-- **When properties have the expected value.**  A query is met if each of its properties is
absent and need not be there, or has in the first source that shows it a value that will do.
If it is not met, the message lists the missing properties if there are any, and otherwise
those with a different value, in the order of the query. -/
theorem evaluate_compares (query : PropertyQuery) (env : Environment) :
    ((query.evaluate env).matched = true ↔
      ∀ name ∈ query.names, ∃ key, query.IsKey name key ∧
        ((env.Lacks key ∧ query.missingMatches = true) ∨
          ∃ value, env.Shows key value ∧
            query.Suits value ∧ Text.trim query.expected = query.expected)) ∧
    ((query.evaluate env).matched = false →
      (query.evaluate env).message = .aboutDetail .onProperty query.describe
        (if query.names.filter (query.IsMissing env) = [] then
          .found ⟨"different value in property", "different value in properties"⟩ .quoted
            (query.names.filter (query.IsDifferent env))
        else .didNotFind ⟨"property", "properties"⟩ .quoted
          (query.names.filter (query.IsMissing env)))) := by
  have hadmits : ∀ value, query.Admits value ↔
      query.Suits value ∧ Text.trim query.expected = query.expected :=
    fun value => ⟨fun h => ⟨h.suits, h.trimmed⟩, fun h => ⟨h.1, h.2⟩⟩
  constructor
  · rw [matched_evaluate_iff]
    simp only [IsSatisfied, hadmits]
  · intro h
    rw [message_evaluate h, missing_eq_filter, different_eq_filter]

/-- A property with blanks around its expected value. -/
def paddedQuery : PropertyQuery where
  names := ["mode"]
  expected := " on"

/-- An environment in which the property has exactly that value. -/
def paddedEnvironment : Environment :=
  ⟨[.ofPairs "overrides" [("mode", " on")]]⟩

/-- **A value that equals the expected one is turned down** if there are blanks around it. -/
theorem evaluate_rejects_identical :
    paddedEnvironment.Shows "mode" paddedQuery.expected ∧
    paddedQuery.Suits paddedQuery.expected ∧
    ¬((paddedQuery.evaluate paddedEnvironment).matched = true ↔
      ∀ name ∈ paddedQuery.names, ∃ key, paddedQuery.IsKey name key ∧
        ((paddedEnvironment.Lacks key ∧ paddedQuery.missingMatches = true) ∨
          ∃ value, paddedEnvironment.Shows key value ∧ paddedQuery.Suits value)) := by
  have hkey : paddedQuery.IsKey "mode" "mode" := .bare (by decide)
  have hshows : paddedEnvironment.Shows "mode" " on" :=
    Environment.get?_eq_some_iff.mp (by cbv)
  have hsuits : paddedQuery.Suits " on" := .inl (by decide)
  refine ⟨hshows, hsuits, fun h => ?_⟩
  have hmatched : (paddedQuery.evaluate paddedEnvironment).matched = true := by
    refine h.mpr fun name hn => ?_
    rw [List.mem_singleton.mp hn]
    exact ⟨"mode", hkey, .inr ⟨" on", hshows, hsuits⟩⟩
  obtain ⟨key, -, hlacks | ⟨value, -, hadmits⟩⟩ :=
    matched_evaluate_iff.mp hmatched "mode" (List.mem_singleton_self _)
  · exact Bool.false_ne_true hlacks.2
  · exact absurd hadmits.trimmed (by decide)

end PropertyQuery
end Activation
