import Activation.Kind

/-!
# Messages

A message says why a condition did or did not hold.  It is a chain of clauses
separated by semicolons, and each clause is about one condition: the label of
its kind, perhaps the detail of what was asked, and a finding.
-/

namespace Activation

/-- A noun in the singular and in the plural. -/
structure Noun where
  /-- The form for exactly one item. -/
  one : String
  /-- The form for any other number of items. -/
  many : String

/-- How listed items are shown. -/
inductive ItemStyle where
  /-- As they are. -/
  | bare
  /-- Between single quotes. -/
  | quoted
  deriving DecidableEq, Repr

/-- An item in a given style. -/
def ItemStyle.show : ItemStyle → String → String
  | bare, item => item
  | quoted, item => "'" ++ item ++ "'"

/-- What is said about a condition. -/
inductive Finding where
  /-- Anything, in free words. -/
  | reason (text : String)
  /-- An item is there. -/
  | available (item : String)
  /-- An item is not there. -/
  | notAvailable (item : String)
  /-- The listed items were found. -/
  | found (noun : Noun) (style : ItemStyle) (items : List String)
  /-- The listed items were not found. -/
  | didNotFind (noun : Noun) (style : ItemStyle) (items : List String)
  /-- Something was found, with no items to list. -/
  | foundAny (noun : String)
  /-- Nothing was found at all. -/
  | foundNone (noun : String)

namespace Finding

/-- A noun that agrees with the number of the items, followed by the items. -/
def listed (noun : Noun) (style : ItemStyle) (items : List String) : String :=
  let agreed := if items.length = 1 then noun.one else noun.many
  if items.isEmpty then agreed
  else agreed ++ " " ++ ", ".intercalate (items.map style.show)

/-- A finding in words. -/
def text : Finding → String
  | reason text => text
  | available item => item ++ " is available"
  | notAvailable item => item ++ " is not available"
  | found noun style items => "found " ++ listed noun style items
  | didNotFind noun style items => "did not find " ++ listed noun style items
  | foundAny noun => "found " ++ noun
  | foundNone noun => "did not find " ++ noun

end Finding

/-- An explanation of one or more outcomes. -/
structure Message where
  /-- The words of the message; an empty text is no message. -/
  text : String
  deriving DecidableEq, Repr

namespace Message

/-- The message that says nothing. -/
def empty : Message := ⟨""⟩

/-- Whether a message says nothing. -/
def isEmpty (message : Message) : Bool :=
  message.text.isEmpty

/-- One message after the other.  A message that says nothing leaves no trace. -/
def append (first second : Message) : Message :=
  if second.isEmpty then first
  else if first.isEmpty then second
  else ⟨first.text ++ "; " ++ second.text⟩

instance : Append Message := ⟨append⟩

/-- The clause about a condition of a given kind. -/
def about (kind : Kind) (finding : Finding) : Message :=
  ⟨kind.label ++ " " ++ finding.text⟩

/-- The clause about a condition of a given kind, with the detail of what it asks. -/
def aboutDetail (kind : Kind) (detail : String) (finding : Finding) : Message :=
  ⟨kind.label ++ " " ++ detail ++ " " ++ finding.text⟩

end Message
end Activation
