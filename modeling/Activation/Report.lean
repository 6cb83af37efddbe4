import Std.Data.ExtTreeMap
import Activation.Outcome
import Activation.UnitName

/-!
# The report of a pass

Every outcome of a pass is recorded under its unit, so that whoever runs the pass
can say why each unit was applied or not.  A unit is a positive match if all of
its recorded outcomes are matches; a flag beside the outcomes says so and is kept
up with each of them.  Units without conditions and exclusions are recorded by name
alone, once each, in the order in which they come.
-/

namespace Activation

/-- Whether recorded outcomes are all matches. -/
def Report.isFullMatch (outcomes : List Outcome) : Bool :=
  outcomes.all Outcome.matched

/-- What was recorded of one unit. -/
structure UnitOutcomes where
  /-- Whether every outcome so far is a match. -/
  fullMatch : Bool := true
  /-- The outcomes, in order. -/
  outcomes : List Outcome := []
  /-- The flag agrees with the outcomes. -/
  fullMatch_eq : fullMatch = Report.isFullMatch outcomes := by rfl
  deriving DecidableEq

namespace UnitOutcomes

/-- What is recorded of a unit after a further outcome. -/
def record (entry : UnitOutcomes) (outcome : Outcome) : UnitOutcomes where
  fullMatch := entry.fullMatch && outcome.matched
  outcomes := entry.outcomes ++ [outcome]
  fullMatch_eq := by
    rw [entry.fullMatch_eq, Report.isFullMatch, Report.isFullMatch, List.all_append,
      List.all_cons, List.all_nil, Bool.and_true]

/-- What is recorded of a unit after further outcomes. -/
def recordAll (entry : UnitOutcomes) (outcomes : List Outcome) : UnitOutcomes :=
  outcomes.foldl record entry

end UnitOutcomes

/-- What was recorded during a pass. -/
structure Report where
  /-- What was recorded of each unit that has been evaluated. -/
  units : Std.ExtTreeMap UnitName UnitOutcomes := ∅
  /-- The exclusions. -/
  exclusions : List UnitName := []
  /-- The units accepted without conditions. -/
  unconditional : List UnitName := []
  deriving DecidableEq

namespace Report

/-- A report with more outcomes of a unit. -/
def recordOutcomes (report : Report) (unit : UnitName) (outcomes : List Outcome) : Report :=
  { report with
    units := report.units.insert unit (((report.units[unit]?).getD {}).recordAll outcomes) }

/-- A list of names with a further one at the end, unless it is listed already. -/
def addName (names : List UnitName) (unit : UnitName) : List UnitName :=
  if names.contains unit then names else names ++ [unit]

/-- A report with more exclusions. -/
def recordExclusions (report : Report) (units : List UnitName) : Report :=
  { report with exclusions := units.foldl addName report.exclusions }

/-- A report with a further unit accepted without conditions. -/
def recordUnconditional (report : Report) (unit : UnitName) : Report :=
  { report with unconditional := addName report.unconditional unit }

/-- The recorded outcomes of a unit. -/
def outcomes? (report : Report) (unit : UnitName) : Option (List Outcome) :=
  (report.units[unit]?).map UnitOutcomes.outcomes

/-- The units that have been evaluated and whose flag is as given, sorted by name, with their
outcomes. -/
def flagged (report : Report) (flag : Bool) : List (UnitName × List Outcome) :=
  (report.units.toList.filter fun entry => entry.2.fullMatch == flag).map fun entry =>
    (entry.1, entry.2.outcomes)

/-- The units whose outcomes are all matches, sorted by name. -/
def positive (report : Report) : List (UnitName × List Outcome) :=
  report.flagged true

/-- The units with an outcome that is no match, sorted by name. -/
def negative (report : Report) : List (UnitName × List Outcome) :=
  report.flagged false

/-- An outcome as an item of a list. -/
def outcomeItem (indent : String) (outcome : Outcome) : String :=
  indent ++ "- " ++ outcome.message.text ++ " (" ++ outcome.kind.name ++ ")"

/-- The lines about a positive match. -/
def positiveLines (entry : UnitName × List Outcome) : List String :=
  ["   " ++ entry.1 ++ " matched:"] ++ entry.2.map (outcomeItem "      ") ++ [""]

/-- The lines about a negative match: what failed, and then what did not. -/
def negativeLines (entry : UnitName × List Outcome) : List String :=
  let failed := entry.2.filter fun outcome => !outcome.matched
  let passed := entry.2.filter Outcome.matched
  ["   " ++ entry.1 ++ ":", "      Did not match:"] ++ failed.map (outcomeItem "         ") ++
    (if passed.isEmpty then [] else "      Matched:" :: passed.map (outcomeItem "         ")) ++
    [""]

/-- The lines about names. -/
def nameLines (names : List UnitName) : List String :=
  if names.isEmpty then [] else names.map ("    " ++ ·) ++ [""]

/-- The lines of a section: its title, underlined, and its contents, if any. -/
def sectionLines (title : String) (contents : List String) : List String :=
  [title ++ ":", String.ofList (List.replicate (title.length + 1) '-'), ""] ++
    if contents.isEmpty then ["    None", ""] else contents

/-- What stands above and below the heading. -/
def banner : String :=
  String.ofList (List.replicate 28 '=')

/-- All lines of a report. -/
def lines (report : Report) : List String :=
  [banner, "CONDITIONS EVALUATION REPORT", banner, ""] ++
    sectionLines "Positive matches" (report.positive.flatMap positiveLines) ++
    sectionLines "Negative matches" (report.negative.flatMap negativeLines) ++
    sectionLines "Exclusions" (nameLines report.exclusions) ++
    sectionLines "Unconditional units" (nameLines report.unconditional)

/-- A report as text. -/
def render (report : Report) : String :=
  String.join (report.lines.map (· ++ "\n"))

end Report
end Activation
