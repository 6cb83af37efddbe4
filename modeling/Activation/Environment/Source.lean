import Std.Data.ExtTreeMap
import Std.Data.ExtTreeSet
import Activation.PropertyText.Entry
import Activation.Text.Casing

/-!
# Property sources

A property source is a named set of keys with their values.  It may come from
pairs, from property text or from the variables of the process; of two
definitions of one key the later counts.

Keys of a source can be hidden.  A hidden key keeps its value but is not seen,
neither by a look-up nor among the entries, and it stays hidden when it is given
a new value.
-/

namespace Activation

/-- A named set of properties, some of which may be hidden. -/
structure PropertySource where
  /-- The name of the source. -/
  name : String
  /-- The values of all keys. -/
  properties : Std.ExtTreeMap String String := ∅
  /-- The keys that are not seen. -/
  hidden : Std.ExtTreeSet String := ∅
  deriving DecidableEq

namespace PropertySource

/-- The name of the source made from the variables of the process. -/
def systemEnvironment : String := "systemEnvironment"

/-- What the name of a variable begins with to be taken for a property. -/
def variableStart : String := "AUTOCONFIGURE_"

/-- A source with the given pairs; the later of two pairs for one key counts. -/
def ofPairs (name : String) (pairs : List (String × String)) : PropertySource :=
  { name, properties := Std.ExtTreeMap.ofList pairs }

/-- A source with the entries of a property text. -/
def ofText (name text : String) : PropertySource :=
  ofPairs name (PropertyText.readEntries text)

/-- The property key that a variable is bound to: its name in small letters, with
dots for underscores. -/
def boundKey (variableName : String) : String :=
  String.ofList ((Text.lowercase variableName).toList.map fun c => if c = '_' then '.' else c)

/-- The source made from the variables of a process. -/
def ofVariables (pairs : List (String × String)) : PropertySource :=
  ofPairs systemEnvironment
    ((pairs.filter fun v => variableStart.toList.isPrefixOf v.1.toList).map
      fun v => (boundKey v.1, v.2))

/-- The visible value of a key. -/
def get? (source : PropertySource) (key : String) : Option String :=
  if source.hidden.contains key then none else source.properties[key]?

/-- A source with a value for a key. -/
def insert (source : PropertySource) (key value : String) : PropertySource :=
  { source with properties := source.properties.insert key value }

/-- A source with more keys hidden. -/
def hide (source : PropertySource) (keys : List String) : PropertySource :=
  { source with hidden := source.hidden.insertMany keys }

/-- The visible keys with their values, sorted by key. -/
def entries (source : PropertySource) : List (String × String) :=
  source.properties.toList.filter fun entry => !source.hidden.contains entry.1

end PropertySource
end Activation
