import Activation.Catalog
import Activation.Settings
import Activation.Written.Conditions

/-!
# Definitions and settings as data

How definitions of units and the settings of the engine are written down and read
back.  The precedence of a unit is the one field that may also hold nothing, which
is the same as if it were not there.
-/

namespace Activation

namespace Definition

/-- The precedence that data write; there may be none. -/
def orderOf? : Data → Option (Option Int32)
  | .null => some none
  | .int n => (Text.toInt32? n).map some
  | _ => none

/-- A precedence as data. -/
def orderData : Option Int32 → Data
  | none => .null
  | some order => .int order.toInt

/-- A definition as data. -/
def toData (definition : Definition) : Data :=
  .record [("name", .text definition.name),
    ("conditions", .list (definition.rules.map Rule.toData)),
    ("order", orderData definition.order), ("before", .ofTexts definition.before),
    ("after", .ofTexts definition.after),
    ("provides", .list (definition.provides.map Bean.toData))]

/-- The definition that data write. -/
def ofData? (origin : Origin) (data : Data) : Option Definition := do
  let fields ← data.fields? origin ["name", "conditions", "order", "before", "after", "provides"]
  let name ← Data.required fields "name" Data.text?
  let rules ← Data.optional fields "conditions" (Data.list? Rule.ofData?) []
  let order ← Data.optional fields "order" orderOf? none
  let before ← Data.optional fields "before" Data.texts? []
  let after ← Data.optional fields "after" Data.texts? []
  let provides ← Data.optional fields "provides" (Data.list? (Bean.ofData? origin)) []
  some { name, rules, order, before, after, provides }

end Definition

/-- The mode of the pre-filter that data write. -/
def PrefilterMode.ofData? (origin : Origin) (data : Data) : Option PrefilterMode :=
  (data.word? origin).bind ofWord?

/-- The policy for exclusions that data write. -/
def ExclusionPolicy.ofData? (origin : Origin) (data : Data) : Option ExclusionPolicy :=
  (data.word? origin).bind ofWord?

namespace Settings

/-- Settings as data. -/
def toData (settings : Settings) : Data :=
  .record [("capability-key", .text settings.capability),
    ("prefilter-mode", .text settings.mode.word),
    ("exclusion-policy", .text settings.policy.word), ("enabled", .bool settings.enabled)]

/-- The settings that data write. -/
def ofData? (origin : Origin) (data : Data) : Option Settings := do
  let fields ← data.fields? origin
    ["capability-key", "prefilter-mode", "exclusion-policy", "enabled"]
  let usual : Settings := {}
  let capability ← Data.optional fields "capability-key" Data.text? usual.capability
  let mode ← Data.optional fields "prefilter-mode" (PrefilterMode.ofData? origin) usual.mode
  let policy ← Data.optional fields "exclusion-policy" (ExclusionPolicy.ofData? origin)
    usual.policy
  let enabled ← Data.optional fields "enabled" Data.bool? usual.enabled
  some { capability, mode, policy, enabled }

end Settings
end Activation
