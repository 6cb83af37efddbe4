import Activation.Environment
import Activation.Outcome

/-!
# Asking the environment for properties

A query lists the names of properties under a common beginning.  Each property
should be there and have the expected value.  With no value expected, any value
but `false` will do.  The value of the property is compared without the blanks
around it and without regard to letter case; the expected value is taken as it
is.

A failure reports the properties that are not there, and only if there are none
of these the properties that have another value.
-/

namespace Activation

/-- Properties that should have a value. -/
structure PropertyQuery where
  /-- What all keys begin with. -/
  stem : String := ""
  /-- The names of the properties. -/
  names : List String
  /-- The expected value; empty for any but `false`. -/
  expected : String := ""
  /-- Whether a property that is not there will do. -/
  missingMatches : Bool := false
  deriving DecidableEq, Repr

namespace PropertyQuery

/-- The query for one property. -/
def named (name : String) : PropertyQuery := { names := [name] }

/-- A query with another beginning of the keys. -/
def under (query : PropertyQuery) (stem : String) : PropertyQuery :=
  { query with stem }

/-- A query with another expected value. -/
def expecting (query : PropertyQuery) (value : String) : PropertyQuery :=
  { query with expected := value }

/-- A query for which a property that is not there will do. -/
def orMissing (query : PropertyQuery) : PropertyQuery :=
  { query with missingMatches := true }

/-- The beginning of all keys: without blanks, and with a dot at its end unless it
is empty or has one. -/
def keyStem (query : PropertyQuery) : String :=
  let stem := Text.trim query.stem
  if stem.isEmpty || stem.toList.getLast? == some '.' then stem else stem ++ "."

/-- The key of a property. -/
def key (query : PropertyQuery) (name : String) : String :=
  query.keyStem ++ name

/-- Whether a value is the expected one. -/
def accepts (query : PropertyQuery) (value : String) : Bool :=
  if query.expected.isEmpty then !Text.sameLetters (Text.trim value) "false"
  else Text.sameLetters (Text.trim value) query.expected

/-- The names of the properties that should be there and are not. -/
def missing (query : PropertyQuery) (env : Environment) : List String :=
  query.names.filter fun name => !query.missingMatches && (env.get? (query.key name)).isNone

/-- The names of the properties that have another value. -/
def different (query : PropertyQuery) (env : Environment) : List String :=
  query.names.filter fun name => (env.get? (query.key name)).any fun value => !query.accepts value

/-- The properties of a query in words. -/
def describe (query : PropertyQuery) : String :=
  let names :=
    match query.names with
    | [name] => name
    | names => "[" ++ ", ".intercalate names ++ "]"
  let value := if query.expected.isEmpty then "" else "=" ++ query.expected
  "(" ++ query.keyStem ++ names ++ value ++ ")"

/-- The outcome of the condition that the properties have the expected value. -/
def evaluate (query : PropertyQuery) (env : Environment) : Outcome :=
  let missing := query.missing env
  let different := query.different env
  if !missing.isEmpty then
    .fail .onProperty (.aboutDetail .onProperty query.describe
      (.didNotFind ⟨"property", "properties"⟩ .quoted missing))
  else if !different.isEmpty then
    .fail .onProperty (.aboutDetail .onProperty query.describe
      (.found ⟨"different value in property", "different value in properties"⟩ .quoted different))
  else
    .pass .onProperty (.aboutDetail .onProperty query.describe (.reason "matched"))

end PropertyQuery
end Activation
