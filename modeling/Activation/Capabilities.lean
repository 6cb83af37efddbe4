import Std.Data.ExtTreeMap
import Activation.PropertyText.Entry
import Activation.Text.Items
import Activation.UnitName

/-!
# Capabilities and their candidates

Candidates are offered under a capability.  Whoever offers more candidates under
a capability that is known already adds to the end of its list; names offered
twice stay in it twice.
-/

namespace Activation

/-- The candidates offered under each capability, in order of their offering. -/
structure Capabilities where
  /-- The candidates of each capability. -/
  offers : Std.ExtTreeMap String (List UnitName) := ∅
  deriving DecidableEq

namespace Capabilities

/-- The candidates of a capability; none if it is unknown. -/
def candidates (caps : Capabilities) (capability : String) : List UnitName :=
  (caps.offers[capability]?).getD []

/-- Capabilities with more candidates under one of them. -/
def add (caps : Capabilities) (capability : String) (units : List UnitName) : Capabilities :=
  ⟨caps.offers.insert capability (caps.candidates capability ++ units)⟩

/-- Capabilities with everything that others offer. -/
def merge (caps others : Capabilities) : Capabilities :=
  others.offers.toList.foldl (fun caps offer => caps.add offer.1 offer.2) caps

/-- The capabilities with offers in property text: a capability for a key, its
candidates for the comma-separated value. -/
def ofText (text : String) : Capabilities :=
  (PropertyText.readEntries text).foldl
    (fun caps entry => caps.add (Text.trim entry.1) (Text.items entry.2)) {}

/-- The capabilities of several property texts, merged in order. -/
def ofTexts (texts : List String) : Capabilities :=
  texts.foldl (fun caps text => caps.merge (ofText text)) {}

/-- All capabilities with their candidates, sorted by capability. -/
def toList (caps : Capabilities) : List (String × List UnitName) :=
  caps.offers.toList

end Capabilities
end Activation
