import Activation.CommandLine
import Activation.Environment.Variables

/-!
# The program

The outermost layer: it takes the arguments of the process, reads the manifest and,
where a pass is asked for, the variables, prints the answer and ends with its code.
-/

namespace Activation
namespace CommandLine

/-- The path of the manifest that an invocation works on. -/
def manifestPath? : Invocation → Option String
  | .resolve path _ | .webType path => some path
  | _ => none

/-- The manifest at a path, if there is one and it can be read. -/
def loadManifest (path : String) : IO (Option Manifest) := do
  try
    let text ← IO.FS.readFile path
    return Manifest.read? text
  catch _ => return none

/-- The variables of this process; none if one of them is no text.  An error in reading them is
not hidden, and ends the program. -/
def processVariables : IO (Option (List (String × String))) := do
  let block ← IO.FS.readBinFile "/proc/self/environ"
  return Variables.ofBlock? block.data.toList

/-- The exit code of a program that breaks off. -/
def brokenOffCode : UInt32 := 101

/-- What is said if a variable of the process is no text. -/
def noTextVariable : String := "a variable of the process is not valid UTF-8"

/-- Answers the arguments, and gives the exit code.  The variables of the process are looked at
only on the way to a pass; the program breaks off there if one of them is no text, whether or
not the pass would have asked for it. -/
def run (arguments : List String) : IO UInt32 := do
  let invocation := Invocation.ofArguments arguments
  let manifest ← match manifestPath? invocation with
    | some path => loadManifest path
    | none => pure none
  let process ←
    if looksAtVariables (fun _ => manifest) invocation then processVariables else pure (some [])
  match process with
  | none =>
    IO.eprintln noTextVariable
    return brokenOffCode
  | some process =>
    let answer := answer (fun _ => manifest) process invocation
    IO.print answer.output
    match answer.failure with
    | some failure => IO.eprintln ("Command failed: " ++ failure)
    | none => pure ()
    return answer.code.toUInt32

end CommandLine
end Activation

/-- Runs the program. -/
def main (arguments : List String) : IO UInt32 :=
  Activation.CommandLine.run arguments
