import Std.Data.ExtTreeMap
import Std.Data.ExtTreeSet
import Activation.Bean.Registry
import Activation.Outcome
import Activation.Text.Blank

/-!
# Asking the registry for beans

A query names criteria: types, annotations and names that beans should have.  It
also says which scopes are searched, and it may rule out beans of some types: no
name that a searched bean of an ignored type bears ever counts as a match.

Matching a query sorts its criteria into those for which there is a bean and
those for which there is none.  Repeating a type or an annotation that is found
changes nothing, since it is kept with its beans under one key; every other
criterion is listed as often as it was asked.

Three conditions are built on this.  One wants a bean for every criterion, one
wants none for any, and one wants the beans to single out a candidate: there must
be one bean only, or one only that is marked as primary.  The mark is read in the
current scope, and in the ancestors only if all scopes were searched.
-/

namespace Activation

/-- Criteria for beans. -/
structure BeanQuery where
  /-- Types that beans should have. -/
  types : List String := []
  /-- Names that beans should have. -/
  names : List BeanName := []
  /-- Annotations that beans should carry. -/
  annotations : List String := []
  /-- Types whose beans do not count. -/
  ignoredTypes : List String := []
  /-- The scopes to search. -/
  search : Search := .all
  deriving DecidableEq, Repr

/-- The criteria of a query, sorted by whether there is a bean for them. -/
structure BeanMatches where
  /-- The types found, with the names of their beans. -/
  foundTypes : Std.ExtTreeMap String (List BeanName) := ∅
  /-- The annotations found, with the names of their beans. -/
  foundAnnotations : Std.ExtTreeMap String (List BeanName) := ∅
  /-- The names found. -/
  foundNames : List BeanName := []
  /-- The types not found. -/
  missingTypes : List String := []
  /-- The annotations not found. -/
  missingAnnotations : List String := []
  /-- The names not found. -/
  missingNames : List BeanName := []
  /-- The names of all beans found, each at the place where it was found first. -/
  beans : List BeanName := []
  deriving DecidableEq

namespace BeanMatches

/-- Whether there is a bean for every criterion. -/
def isComplete (result : BeanMatches) : Bool :=
  result.missingTypes.isEmpty && result.missingAnnotations.isEmpty && result.missingNames.isEmpty

/-- Whether there is a bean for some criterion. -/
def isAny (result : BeanMatches) : Bool :=
  !result.foundTypes.isEmpty || !result.foundAnnotations.isEmpty || !result.foundNames.isEmpty

/-- What was not found, in words. -/
def missingReason (result : BeanMatches) : String :=
  let clause (description : String) (missing : List String) : List String :=
    if missing.isEmpty then []
    else ["did not find any beans " ++ description ++ " " ++ ", ".intercalate missing]
  " and ".intercalate
    (clause "annotated with" result.missingAnnotations ++ clause "of type" result.missingTypes ++
      clause "named" result.missingNames)

/-- What was found, in words. -/
def foundReason (result : BeanMatches) : String :=
  let clauses (description : String) (found : Std.ExtTreeMap String (List BeanName)) :
      List String :=
    found.toList.map fun entry =>
      "found beans " ++ description ++ " '" ++ entry.1 ++ "' " ++ ", ".intercalate entry.2
  let named :=
    if result.foundNames.isEmpty then []
    else ["found beans named " ++ ", ".intercalate result.foundNames]
  " and ".intercalate
    (clauses "annotated with" result.foundAnnotations ++ clauses "of type" result.foundTypes ++
      named)

end BeanMatches

namespace BeanQuery

/-- The query for beans of a type. -/
def ofType (type : String) : BeanQuery := { types := [type] }

/-- The query for a bean of a name. -/
def named (name : BeanName) : BeanQuery := { names := [name] }

/-- The query for beans with an annotation. -/
def marked (mark : String) : BeanQuery := { annotations := [mark] }

/-- A query that ignores the beans of a further type. -/
def ignoring (query : BeanQuery) (type : String) : BeanQuery :=
  { query with ignoredTypes := query.ignoredTypes ++ [type] }

/-- A query that searches other scopes. -/
def searching (query : BeanQuery) (search : Search) : BeanQuery :=
  { query with search }

/-- Whether a query has no criterion. -/
def isEmpty (query : BeanQuery) : Bool :=
  query.types.isEmpty && query.names.isEmpty && query.annotations.isEmpty

/-- The types that can tell candidates apart: neither blank nor the type of
everything, and without the blanks around them. -/
def candidateTypes (query : BeanQuery) : List String :=
  (query.types.map Text.trim).filter fun type => !type.isEmpty && type != "Object"

/-- The criteria of a query in words. -/
def describe (query : BeanQuery) : String :=
  let part (title : String) (values : List String) : List String :=
    if values.isEmpty then [] else [title ++ ": " ++ ",".intercalate values]
  "(" ++ "; ".intercalate
    (part "names" query.names ++ part "types" query.types ++
      part "annotations" query.annotations ++ part "ignored" query.ignoredTypes ++
      ["SearchStrategy: " ++ query.search.word]) ++ ")"

/-- The names that searched beans of ignored types bear. -/
def ignoredNames (query : BeanQuery) (scopes : List Scope) : Std.ExtTreeSet BeanName :=
  .ofList (query.ignoredTypes.flatMap fun type => Registry.names (·.hasType type) scopes)

/-- Criteria, each with the names of the searched beans that have it and count. -/
def sought (ignored : Std.ExtTreeSet BeanName) (scopes : List Scope)
    (has : Bean → String → Bool) (criteria : List String) : List (String × List BeanName) :=
  criteria.map fun criterion =>
    (criterion, (Registry.names (has · criterion) scopes).filter fun name => !ignored.contains name)

/-- The criteria for which there are beans, each with its beans. -/
def found (sought : List (String × List BeanName)) : Std.ExtTreeMap String (List BeanName) :=
  .ofList (sought.filter fun entry => !entry.2.isEmpty)

/-- The criteria for which there is no bean. -/
def missing (sought : List (String × List BeanName)) : List String :=
  (sought.filter fun entry => entry.2.isEmpty).map Prod.fst

/-- The criteria of a query, sorted by whether the given scopes have beans for them. -/
def matchesIn (query : BeanQuery) (scopes : List Scope) : BeanMatches :=
  let ignored := query.ignoredNames scopes
  let types := sought ignored scopes Bean.hasType query.types
  let annotations := sought ignored scopes Bean.isMarked query.annotations
  let names := query.names.partition fun name =>
    !ignored.contains name && Registry.defines scopes name
  { foundTypes := found types
    foundAnnotations := found annotations
    foundNames := names.1
    missingTypes := missing types
    missingAnnotations := missing annotations
    missingNames := names.2
    beans := (types.flatMap Prod.snd ++ annotations.flatMap Prod.snd ++ names.1).eraseDups }

/-- The criteria of a query, sorted by whether the registry has beans for them. -/
def matchesOf (query : BeanQuery) (registry : Registry) : BeanMatches :=
  query.matchesIn (registry.searched query.search)

/-- What several beans, one of which should be primary, are called. -/
def primaryNoun : Noun := ⟨"a primary bean from beans", "a primary bean from beans"⟩

/-- The outcome of the condition that there is a bean for every criterion. -/
def evaluatePresent (query : BeanQuery) (registry : Registry) : Outcome :=
  let result := query.matchesOf registry
  if result.isComplete then
    .pass .onBean (.aboutDetail .onBean query.describe
      (.found ⟨"bean", "beans"⟩ .quoted result.beans))
  else
    .fail .onBean (.aboutDetail .onBean query.describe (.reason result.missingReason))

/-- Whether beans single out one: there is one only, or one only that is primary. -/
def singlesOut (query : BeanQuery) (registry : Registry) (beans : List BeanName) : Bool :=
  beans.length == 1 ||
    (beans.filter fun name => registry.isPrimary name (query.search == .all)).length == 1

/-- The outcome of the condition that the beans single out a candidate. -/
def evaluateSingle (query : BeanQuery) (registry : Registry) : Outcome :=
  let result := query.matchesOf registry
  if !result.isComplete then
    .fail .onSingleCandidate (.aboutDetail .onSingleCandidate query.describe
      (.foundNone "any beans"))
  else if query.singlesOut registry result.beans then
    .pass .onSingleCandidate (.aboutDetail .onSingleCandidate query.describe
      (.found primaryNoun .quoted result.beans))
  else
    .fail .onSingleCandidate (.aboutDetail .onSingleCandidate query.describe
      (.didNotFind primaryNoun .quoted result.beans))

/-- The outcome of the condition that there is a bean for no criterion. -/
def evaluateAbsent (query : BeanQuery) (registry : Registry) : Outcome :=
  let result := query.matchesOf registry
  if result.isAny then
    .fail .onMissingBean (.aboutDetail .onMissingBean query.describe (.reason result.foundReason))
  else
    .pass .onMissingBean (.aboutDetail .onMissingBean query.describe (.foundNone "any beans"))

end BeanQuery
end Activation
