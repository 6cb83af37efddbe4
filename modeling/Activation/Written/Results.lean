import Activation.Resolution
import Activation.Written.Units

/-!
# Results as data

How the report and the result of a pass are written down.
-/

namespace Activation

/-- Units with their outcomes as data. -/
def outcomesData (outcomes : List Outcome) : Data :=
  .list (outcomes.map Outcome.toData)

/-- A report as data. -/
def Report.toData (report : Report) : Data :=
  .record [
    ("units", .record (report.units.toList.map fun entry =>
      (entry.1, .record [("full_match", .bool entry.2.fullMatch),
        ("outcomes", outcomesData entry.2.outcomes)]))),
    ("exclusions", .ofTexts report.exclusions), ("unconditional", .ofTexts report.unconditional)]

/-- What a pass found out as data. -/
def Resolution.toData (resolution : Resolution) : Data :=
  .record [("accepted", .ofTexts resolution.accepted),
    ("rejected", .record (resolution.rejected.toList.map fun entry =>
      (entry.1, outcomesData entry.2))),
    ("excluded", .ofTexts resolution.excluded), ("report", resolution.report.toData),
    ("disabled", .bool resolution.disabled)]

end Activation
