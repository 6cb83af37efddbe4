import Activation.Data
import Activation.Rule

/-!
# Conditions as data

How outcomes, beans and rules are written down and read back.  A rule is a record
whose field `kind` says of what kind it is; its other fields are those of the
query or the list that belongs to the kind.  If a rule is given as a list, its
kind comes first.  Everything that is written carries all of its fields; a reader
fills in the defaults.
-/

namespace Activation

/-- A kind as data. -/
def Kind.toData (kind : Kind) : Data := .text kind.word

/-- The kind that data write. -/
def Kind.ofData? (origin : Origin) (data : Data) : Option Kind :=
  (data.word? origin).bind ofWord?

/-- A way to search as data. -/
def Search.toData (search : Search) : Data := .text search.word

/-- The way to search that data write. -/
def Search.ofData? (origin : Origin) (data : Data) : Option Search :=
  (data.word? origin).bind ofWord?

/-- A web need as data. -/
def WebNeed.toData (need : WebNeed) : Data := .text need.word

/-- The web need that data write. -/
def WebNeed.ofData? (origin : Origin) (data : Data) : Option WebNeed :=
  (data.word? origin).bind ofWord?

namespace Outcome

/-- An outcome as data. -/
def toData (outcome : Outcome) : Data :=
  .record [("matched", .bool outcome.matched), ("kind", outcome.kind.toData),
    ("message", .text outcome.message.text)]

/-- The outcome that data write. -/
def ofData? (origin : Origin) (data : Data) : Option Outcome := do
  let fields ← data.fields? origin ["matched", "kind", "message"]
  let matched ← Data.required fields "matched" Data.bool?
  let kind ← Data.required fields "kind" (Kind.ofData? origin)
  let text ← Data.required fields "message" Data.text?
  some ⟨matched, kind, ⟨text⟩⟩

end Outcome

namespace Bean

/-- A bean as data. -/
def toData (bean : Bean) : Data :=
  .record [("name", .text bean.name), ("types", .ofTexts bean.types),
    ("annotations", .ofTexts bean.annotations), ("primary", .bool bean.primary)]

/-- The bean that data write. -/
def ofData? (origin : Origin) (data : Data) : Option Bean := do
  let fields ← data.fields? origin ["name", "types", "annotations", "primary"]
  let name ← Data.required fields "name" Data.text?
  let types ← Data.optional fields "types" Data.texts? []
  let annotations ← Data.optional fields "annotations" Data.texts? []
  let primary ← Data.optional fields "primary" Data.bool? false
  some { name, types, annotations, primary }

end Bean

namespace BeanQuery

/-- A query for beans as fields. -/
def toFields (query : BeanQuery) : List (String × Data) :=
  [("types", .ofTexts query.types), ("names", .ofTexts query.names),
    ("annotations", .ofTexts query.annotations), ("ignored_types", .ofTexts query.ignoredTypes),
    ("search", query.search.toData)]

/-- The query for beans that data write. -/
def ofData? (origin : Origin) (data : Data) : Option BeanQuery := do
  let fields ← data.fields? origin ["types", "names", "annotations", "ignored_types", "search"]
  let types ← Data.optional fields "types" Data.texts? []
  let names ← Data.optional fields "names" Data.texts? []
  let annotations ← Data.optional fields "annotations" Data.texts? []
  let ignoredTypes ← Data.optional fields "ignored_types" Data.texts? []
  let search ← Data.optional fields "search" (Search.ofData? origin) .all
  some { types, names, annotations, ignoredTypes, search }

end BeanQuery

namespace PropertyQuery

/-- A query for properties as fields. -/
def toFields (query : PropertyQuery) : List (String × Data) :=
  [("prefix", .text query.stem), ("names", .ofTexts query.names),
    ("having_value", .text query.expected), ("match_if_missing", .bool query.missingMatches)]

/-- The query for properties that data write. -/
def ofData? (origin : Origin) (data : Data) : Option PropertyQuery := do
  let fields ← data.fields? origin ["prefix", "names", "having_value", "match_if_missing"]
  let stem ← Data.optional fields "prefix" Data.text? ""
  let names ← Data.required fields "names" Data.texts?
  let expected ← Data.optional fields "having_value" Data.text? ""
  let missingMatches ← Data.optional fields "match_if_missing" Data.bool? false
  some { stem, names, expected, missingMatches }

end PropertyQuery

namespace Rule

/-- The fields of a rule apart from its kind. -/
def toFields : Rule → List (String × Data)
  | requiresSymbols symbols | forbidsSymbols symbols => [("symbols", .ofTexts symbols)]
  | requiresBeans query | requiresSingleBean query | forbidsBeans query => query.toFields
  | requiresProperties query => query.toFields
  | requiresWeb need => [("web_type", need.toData)]

/-- A rule as data. -/
def toData (rule : Rule) : Data :=
  .record (("kind", rule.kind.toData) :: rule.toFields)

/-- The symbols that the data of a rule write apart from its kind. -/
def symbolsOf? (data : Data) : Option (List Symbol) := do
  let fields ← data.fields? .rule ["symbols"]
  Data.required fields "symbols" Data.texts?

/-- The web need that the data of a rule write apart from its kind. -/
def needOf? (data : Data) : Option WebNeed := do
  let fields ← data.fields? .rule ["web_type"]
  Data.optional fields "web_type" (WebNeed.ofData? .rule) .any

/-- The rule that data write whose kind is known already. -/
def ofRest? (data : Data) : Kind → Option Rule
  | .onClass => (symbolsOf? data).map requiresSymbols
  | .onMissingClass => (symbolsOf? data).map forbidsSymbols
  | .onBean => (BeanQuery.ofData? .rule data).map requiresBeans
  | .onSingleCandidate => (BeanQuery.ofData? .rule data).map requiresSingleBean
  | .onMissingBean => (BeanQuery.ofData? .rule data).map forbidsBeans
  | .onProperty => (PropertyQuery.ofData? .rule data).map requiresProperties
  | .onWebApplication => (needOf? data).map requiresWeb

/-- The kind of a rule, for which there is no other form than the bare word. -/
def kindOf? (data : Data) : Option Kind := data.text?.bind Kind.ofWord?

/-- The rule that data write. -/
def ofData? : Data → Option Rule
  | .record fields => do ofRest? (.record fields) (← Data.required fields "kind" kindOf?)
  | .list (kind :: rest) => do ofRest? (.list rest) (← kindOf? kind)
  | _ => none

end Rule
end Activation
