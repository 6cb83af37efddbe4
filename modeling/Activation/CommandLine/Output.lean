import Activation.CommandLine.Invocation
import Activation.Data.Printer
import Activation.Written.Results

/-!
# Output

What is printed about a pass.  For people there are the accepted units in their
order, and then the rejected and the excluded ones, if there are any; on request
the report follows.  For other programs there is the whole result as data.
-/

namespace Activation
namespace CommandLine

/-- Why a unit was rejected, on one line. -/
def rejectionLine (entry : UnitName × List Outcome) : String :=
  let reasons := (entry.2.filter fun outcome => !outcome.matched).map (·.message.text)
  "  " ++ entry.1 ++ ": " ++ "; ".intercalate reasons

/-- Accepted units with their places. -/
def numbered (units : List UnitName) : List String :=
  (units.zipIdx 1).map fun entry => "  " ++ toString entry.2 ++ ". " ++ entry.1

/-- A title with a number, followed by lines; nothing at all if there are none. -/
def listing (title : String) (lines : List String) : List String :=
  if lines.isEmpty then []
  else (title ++ " units (" ++ toString lines.length ++ "):") :: lines

/-- What is printed about a pass for people. -/
def textOf (resolution : Resolution) (report : Bool) : String :=
  if resolution.disabled then "Auto-configuration is disabled\n"
  else
    let lines :=
      ("Accepted units (" ++ toString resolution.accepted.length ++ "):") ::
        numbered resolution.accepted ++
        listing "Rejected" (resolution.rejected.toList.map rejectionLine) ++
        listing "Excluded" (resolution.excluded.map ("  " ++ ·))
    String.join (lines.map (· ++ "\n")) ++
      (if report then "\n" ++ resolution.report.render else "")

/-- What is printed about a pass. -/
def outputOf (options : Options) (resolution : Resolution) : String :=
  match options.form.getD .text with
  | .text => textOf resolution options.report
  | .json => resolution.toData.print ++ "\n"

end CommandLine
end Activation
