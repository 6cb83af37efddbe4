import Activation.Environment
import Activation.Symbol
import Activation.UnitName

/-!
# Exclusions

Candidates can be excluded from a pass: outright, by names that a user gave, and
by a property of the environment.  An exclusion should name a candidate.  Under
the strict policy every other exclusion is an error; under the lenient policy
only one that names a symbol of the build is, since a name that the build does
not know can do no harm.
-/

namespace Activation

/-- Which exclusions are errors. -/
inductive ExclusionPolicy where
  /-- Those that name no candidate. -/
  | strict
  /-- Those that name no candidate, but a symbol of the build. -/
  | lenient
  deriving DecidableEq, Repr

namespace ExclusionPolicy

/-- Every policy. -/
def all : List ExclusionPolicy := [strict, lenient]

/-- The word for a policy. -/
def word : ExclusionPolicy → String
  | strict => "strict"
  | lenient => "lenient"

/-- The policy with a given word, spelled exactly. -/
def ofWord? (word : String) : Option ExclusionPolicy :=
  all.find? (·.word == word)

/-- The policy that a text names, blanks and letter case aside. -/
def read? (text : String) : Option ExclusionPolicy :=
  ofWord? (Text.lowerAscii (Text.trim text))

/-- What is said about a text that names no policy. -/
def unknown (text : String) : String :=
  "Unknown exclusion policy: " ++ text ++ " (expected strict or lenient)"

/-- Whether an exclusion that names no candidate is an error. -/
def forbids (policy : ExclusionPolicy) (oracle : Oracle) (unit : UnitName) : Bool :=
  match policy with
  | strict => true
  | lenient => oracle unit

@[simp] theorem ofWord?_word (policy : ExclusionPolicy) : ofWord? policy.word = some policy := by
  cases policy <;> decide

end ExclusionPolicy

namespace Exclusion

/-- The property that lists further exclusions. -/
def property : String := "autoconfigure.exclude"

/-- The names of a list, each at its first place only. -/
def distinct (units : List UnitName) : List UnitName :=
  units.eraseDups

/-- The exclusions of a pass: the outright ones, then the names without their
blanks, then the items of the property, each at its first place only. -/
def collect (units : List UnitName) (names : List String) (env : Environment) :
    List UnitName :=
  distinct (units ++ (names.map Text.trim).filter (fun name => !name.isEmpty) ++
    env.items property)

/-- The exclusions that are errors. -/
def invalid (candidates exclusions : List UnitName) (oracle : Oracle)
    (policy : ExclusionPolicy) : List UnitName :=
  exclusions.filter fun unit => !candidates.contains unit && policy.forbids oracle unit

/-- The candidates that are not excluded. -/
def kept (candidates exclusions : List UnitName) : List UnitName :=
  candidates.filter fun unit => !exclusions.contains unit

/-- The candidates that are excluded. -/
def excluded (candidates exclusions : List UnitName) : List UnitName :=
  candidates.filter fun unit => exclusions.contains unit

end Exclusion
end Activation
