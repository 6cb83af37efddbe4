import Std.Data.ExtTreeMap
import Activation.Kind
import Activation.PropertyText.Entry
import Activation.Text.Items
import Activation.UnitName

/-!
# The metadata index

What is known about units ahead of time is kept in a flat index: under the name
of a unit, a dot and a key, a text.  A missing entry means that nothing is known,
never that the answer is no.  Of two entries with one key the later counts.
-/

namespace Activation

/-- A value that should be a whole number and is not. -/
structure NotInteger where
  /-- The full key of the entry. -/
  key : String
  /-- The value as it stands in the index. -/
  value : String
  deriving DecidableEq, Repr

/-- What is said about a value that is no whole number. -/
def NotInteger.message (problem : NotInteger) : String :=
  "Metadata entry '" ++ problem.key ++ "' is not an integer: '" ++ problem.value ++ "'"

/-- The metadata index. -/
structure Metadata where
  /-- The entries with their full keys. -/
  entries : Std.ExtTreeMap String String := ∅
  deriving DecidableEq

namespace Metadata

/-- The key for the precedence of a unit. -/
def orderKey : String := "AutoConfigureOrder"

/-- The key for the units that a unit precedes. -/
def beforeKey : String := "AutoConfigureBefore"

/-- The key for the units that a unit follows. -/
def afterKey : String := "AutoConfigureAfter"

/-- An index with more entries. -/
def extend (index : Metadata) (pairs : List (String × String)) : Metadata :=
  ⟨index.entries.insertMany pairs⟩

/-- The index with the given entries. -/
def ofPairs (pairs : List (String × String)) : Metadata :=
  extend {} pairs

/-- The index written as property text. -/
def ofText (text : String) : Metadata :=
  ofPairs (PropertyText.readEntries text)

/-- The index written as several property texts; the later ones override. -/
def ofTexts (texts : List String) : Metadata :=
  texts.foldl (fun index text => index.extend (PropertyText.readEntries text)) {}

/-- The number of entries. -/
def size (index : Metadata) : Nat :=
  index.entries.size

/-- Whether there is no entry. -/
def isEmpty (index : Metadata) : Bool :=
  index.entries.isEmpty

/-- Whether the index mentions a unit by itself, under no key. -/
def mentions (index : Metadata) (unit : UnitName) : Bool :=
  index.entries.contains unit

/-- The full key of an entry about a unit. -/
def fullKey (unit : UnitName) (key : String) : String :=
  unit ++ "." ++ key

/-- The text under a key of a unit. -/
def get? (index : Metadata) (unit : UnitName) (key : String) : Option String :=
  index.entries[fullKey unit key]?

/-- The text under a kind of condition of a unit. -/
def condition? (index : Metadata) (unit : UnitName) (kind : Kind) : Option String :=
  index.get? unit kind.name

/-- The items under a key of a unit, each at its first place only. -/
def items? (index : Metadata) (unit : UnitName) (key : String) : Option (List String) :=
  (index.get? unit key).map fun value => (Text.items value).eraseDups

/-- The whole number under a key of a unit, blanks around it aside. -/
def integer? (index : Metadata) (unit : UnitName) (key : String) :
    Except NotInteger (Option Int32) :=
  match index.get? unit key with
  | none => .ok none
  | some value =>
    match Text.readInt32? (Text.trim value) with
    | some n => .ok (some n)
    | none => .error ⟨fullKey unit key, value⟩

end Metadata
end Activation
