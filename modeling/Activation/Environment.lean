import Activation.Environment.Source
import Activation.Text.Items
import Activation.Text.Letters

/-!
# The environment

Properties come from several sources, one after the other, and the first source
that shows a key decides its value.

For the time of one operation the environment may be seen with keys of a source
hidden.  That view is again an environment: every source of the given name has
the keys hidden, the others are as they were.
-/

namespace Activation

/-- Property sources, the one with the highest precedence first. -/
structure Environment where
  /-- The sources in order of precedence. -/
  sources : List PropertySource := []
  deriving DecidableEq

namespace Environment

/-- An environment with a further source of the highest precedence. -/
def addFirst (env : Environment) (source : PropertySource) : Environment :=
  ⟨source :: env.sources⟩

/-- An environment with a further source of the lowest precedence. -/
def addLast (env : Environment) (source : PropertySource) : Environment :=
  ⟨env.sources ++ [source]⟩

/-- The first source of a given name. -/
def source? (env : Environment) (name : String) : Option PropertySource :=
  env.sources.find? (·.name == name)

/-- The value of a key in the first source that shows it. -/
def get? (env : Environment) (key : String) : Option String :=
  env.sources.findSome? (·.get? key)

/-- Whether some source shows a key. -/
def contains (env : Environment) (key : String) : Bool :=
  (env.get? key).isSome

/-- The items of a comma-separated value; none if no source shows the key. -/
def items (env : Environment) (key : String) : List String :=
  ((env.get? key).map Text.items).getD []

/-- The truth value that a text writes, blanks and letter case aside. -/
def readFlag? (value : String) : Option Bool :=
  let word := Text.trim value
  if Text.sameLetters word "true" then some true
  else if Text.sameLetters word "false" then some false
  else none

/-- The truth value of a key, if its value is one. -/
def flag? (env : Environment) (key : String) : Option Bool :=
  (env.get? key).bind readFlag?

/-- The view of an environment in which keys of the sources of a given name are
hidden. -/
def withHidden (env : Environment) (name : String) (keys : List String) : Environment :=
  ⟨env.sources.map fun source => if source.name = name then source.hide keys else source⟩

end Environment
end Activation
