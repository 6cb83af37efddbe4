import Activation.Environment
import Activation.Exclusion
import Activation.Prefilter.Mode

/-!
# Settings

The settings of the engine come from whoever builds it, and properties of the
environment override them one by one.  A value that cannot be read leaves the
setting as it was.
-/

namespace Activation

/-- The settings of the engine. -/
structure Settings where
  /-- The capability whose candidates are resolved. -/
  capability : String := "auto-configuration"
  /-- How the work of the pre-filter is shared. -/
  mode : PrefilterMode := .auto
  /-- Which exclusions are errors. -/
  policy : ExclusionPolicy := .strict
  /-- Whether anything is activated at all. -/
  enabled : Bool := true
  deriving DecidableEq, Repr

namespace Settings

/-- The property that switches activation on or off. -/
def enabledProperty : String := "autoconfigure.enabled"

/-- The property for the mode of the pre-filter. -/
def modeProperty : String := "autoconfigure.prefilter.mode"

/-- The property for the exclusion policy. -/
def policyProperty : String := "autoconfigure.exclusion.policy"

/-- The property for the capability. -/
def capabilityProperty : String := "autoconfigure.capability"

/-- The capability that a text names; a blank text names none. -/
def readCapability? (text : String) : Option String :=
  let name := Text.trim text
  if name.isEmpty then none else some name

/-- Settings with the properties of an environment put over them. -/
def overriddenBy (settings : Settings) (env : Environment) : Settings where
  capability :=
    ((env.get? capabilityProperty).bind readCapability?).getD settings.capability
  mode := ((env.get? modeProperty).bind PrefilterMode.read?).getD settings.mode
  policy := ((env.get? policyProperty).bind ExclusionPolicy.read?).getD settings.policy
  enabled := (env.flag? enabledProperty).getD settings.enabled

end Settings
end Activation
