import Std.Data.ExtTreeSet
import Activation.Outcome
import Activation.Text.Blank

/-!
# Symbols

A build knows symbols by name, and an oracle says of any name whether the symbol
is there.  The oracle of a build answers from two fixed sets: a symbol is there
if it is listed, unless it is broken, that is, listed as depending on something
that is missing.  Blanks around a name do not count, and no symbol is there
under a blank name.

Conditions and filters ask an oracle in three ways: which of some symbols are
there, which are not, and which is the first that is not.
-/

namespace Activation

/-- The name of a symbol. -/
abbrev Symbol := String

/-- What says of each symbol whether it is there. -/
abbrev Oracle := Symbol → Bool

/-- The symbols of a build. -/
structure Build where
  /-- The symbols that the build lists. -/
  listed : Std.ExtTreeSet Symbol := ∅
  /-- The symbols whose own needs are missing. -/
  broken : Std.ExtTreeSet Symbol := ∅

namespace Build

/-- A build with the given symbols. -/
def ofLists (listed broken : List Symbol) : Build :=
  ⟨Std.ExtTreeSet.ofList listed, Std.ExtTreeSet.ofList broken⟩

/-- A build with a further symbol. -/
def add (build : Build) (symbol : Symbol) : Build :=
  { build with listed := build.listed.insert symbol }

/-- The number of symbols listed. -/
def size (build : Build) : Nat :=
  build.listed.size

/-- Whether no symbol is listed. -/
def isEmpty (build : Build) : Bool :=
  build.listed.isEmpty

/-- Whether a build has a symbol. -/
def oracle (build : Build) : Oracle := fun symbol =>
  let name := Text.trim symbol
  !name.isEmpty && build.listed.contains name && !build.broken.contains name

end Build

namespace Oracle

/-- The symbols that are there, in the order given. -/
def present (oracle : Oracle) (symbols : List Symbol) : List Symbol :=
  symbols.filter oracle

/-- The symbols that are not there, in the order given. -/
def missing (oracle : Oracle) (symbols : List Symbol) : List Symbol :=
  symbols.filter fun symbol => !oracle symbol

/-- What the symbols of a required class are called. -/
def requiredClass : Noun := ⟨"required class", "required classes"⟩

/-- The outcome against a unit one of whose required symbols is not there. -/
def missingOutcome (symbol : Symbol) : Outcome :=
  .fail .onClass (.about .onClass (.didNotFind requiredClass .quoted [symbol]))

/-- The outcome about the first symbol that is not there; none if all are. -/
def firstMissing? (oracle : Oracle) (symbols : List Symbol) : Option Outcome :=
  (symbols.find? fun symbol => !oracle symbol).map missingOutcome

end Oracle
end Activation
