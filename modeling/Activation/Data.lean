/-!
# Data

What can be written down in a manifest: truth values, numbers, texts, lists, and
records with named fields.  Two notations lead to it, and readers of definitions
and settings start from it, so that they do not depend on the notation.

The fields of a record keep their order, and a field is looked up by its name.  A
reader names the fields that it knows; all others are ignored.  A field may be
required, or it may have a default, which holds only if the field is not there at
all.

Two things can also be written in a longer or shorter form.  A record may be
given as the list of the values of its fields, in their order; the last ones may
then be missing.  A word that names one of several cases may be given as a record
with that word as its only field.  What these forms let pass depends on where the
data come from.
-/

namespace Activation

/-- A value that can be written down. -/
inductive Data where
  /-- Nothing. -/
  | null
  /-- A truth value. -/
  | bool (value : Bool)
  /-- A whole number. -/
  | int (value : Int)
  /-- A number that is not written as a whole number. -/
  | real (written : String)
  /-- A text. -/
  | text (value : String)
  /-- A list. -/
  | list (items : List Data)
  /-- Named fields. -/
  | record (fields : List (String × Data))
  deriving Inhabited, Repr

/-- Where data come from. -/
inductive Origin where
  /-- A TOML document. -/
  | toml
  /-- A JSON text. -/
  | json
  /-- The inside of a rule, in either notation. -/
  | rule
  deriving DecidableEq, Repr

namespace Origin

/-- Whether a list that stands for a record may go on after the last field. -/
def allowsSurplus : Origin → Bool
  | toml => true
  | json | rule => false

/-- Whether a datum may stand in the only field of a record that stands for a
word: something empty, and each origin has its own notion of that. -/
def isFiller : Origin → Data → Bool
  | toml, .record [] | toml, .list [] => true
  | json, .null => true
  | rule, .record [] | rule, .null => true
  | _, _ => false

end Origin

namespace Data

/-- The truth value of a datum. -/
def bool? : Data → Option Bool
  | bool value => some value
  | _ => none

/-- The text of a datum. -/
def text? : Data → Option String
  | text value => some value
  | _ => none

/-- The items of a datum, each read in the same way. -/
def list? {α : Type} (read : Data → Option α) : Data → Option (List α)
  | list items => items.mapM read
  | _ => none

/-- The fields of a datum that stands for a record with the given field names. -/
def fields? (origin : Origin) (names : List String) : Data → Option (List (String × Data))
  | record fields => some fields
  | list items =>
    if origin.allowsSurplus || items.length ≤ names.length then some (names.zip items) else none
  | _ => none

/-- The word of a datum that stands for one. -/
def word? (origin : Origin) : Data → Option String
  | text word => some word
  | record [(word, value)] => if origin.isFiller value then some word else none
  | _ => none

/-- The fields of a datum with arbitrary names, each read in the same way. -/
def pairs? {α : Type} (read : Data → Option α) : Data → Option (List (String × α))
  | record fields => fields.mapM fun field => (read field.2).map fun value => (field.1, value)
  | _ => none

/-- A field that must be there. -/
def required {α : Type} (fields : List (String × Data)) (name : String)
    (read : Data → Option α) : Option α :=
  (fields.lookup name).bind read

/-- A field with a default. -/
def optional {α : Type} (fields : List (String × Data)) (name : String)
    (read : Data → Option α) (default : α) : Option α :=
  match fields.lookup name with
  | none => some default
  | some value => read value

/-- A list of texts as a datum. -/
def ofTexts (texts : List String) : Data :=
  list (texts.map text)

/-- The texts of a list. -/
def texts? : Data → Option (List String) :=
  list? text?

end Data
end Activation
