import Activation.CommandLine.Help
import Activation.CommandLine.Output
import Activation.Manifest

/-!
# The command line

What the program answers to its arguments: what it prints, and how it ends.  It
ends with 2 if it is not understood, with 1 if the manifest cannot be read or the
pass fails, and otherwise with 0.

The environment of a pass has the options of the command line first, then the
variables of the process, then the properties of the manifest.  Exclusions set
through variables are ignored by hiding their key for the time of the pass.
-/

namespace Activation
namespace CommandLine

/-- How the program ends. -/
structure Answer where
  /-- The exit code. -/
  code : Nat
  /-- What is printed. -/
  output : String := ""
  /-- What went wrong, if anything did and is explained. -/
  failure : Option String := none
  deriving DecidableEq, Repr

/-- The answer to arguments that are not understood. -/
def misuseAnswer : Answer := { code := 2 }

/-- What is said if the manifest cannot be read. -/
def noManifest : String := "Failed to load manifest"

/-- The name of the source made from the options of the command line. -/
def optionSource : String := "commandLineArgs"

/-- The source made from the options of the command line, if there is need for one. -/
def optionSources (options : Options) : List PropertySource :=
  match options.mode with
  | none => []
  | some mode => [.ofPairs optionSource [(Settings.modeProperty, mode.word)]]

/-- The environment of a pass. -/
def environment (manifest : Manifest) (process : List (String × String)) (options : Options) :
    Environment :=
  let env : Environment :=
    ⟨optionSources options ++ [.ofVariables process, manifest.source]⟩
  if options.ignoreVariables then
    env.withHidden PropertySource.systemEnvironment [Exclusion.property]
  else env

/-- The candidates for a pass: those of the capability that is set in the
environment. -/
def candidates (manifest : Manifest) (env : Environment) : List UnitName :=
  manifest.capabilities.candidates (manifest.settings.overriddenBy env).capability

/-- What a pass over a manifest finds out. -/
def resolve (manifest : Manifest) (process : List (String × String)) (options : Options) :
    Except Failure Resolution :=
  let env := environment manifest process options
  let request : Request :=
    { candidates := candidates manifest env, excludeNames := options.exclude, env }
  (manifest.engine.resolve .silent request manifest.registry).1

/-- The answer that a manifest leads to; without a manifest there is none. -/
def withManifest (manifest : Option Manifest) (output : Manifest → Except Failure String) :
    Answer :=
  match manifest with
  | none => { code := 1, failure := some noManifest }
  | some manifest =>
    match output manifest with
    | .ok output => { code := 0, output }
    | .error failure => { code := 1, failure := some failure.message }

/-- The answer to an invocation, given the manifests at each path and the variables
of the process. -/
def answer (manifestAt : String → Option Manifest) (process : List (String × String)) :
    Invocation → Answer
  | .misuse => misuseAnswer
  | .version => { code := 0, output := versionText }
  | .help topic => { code := 0, output := helpText topic }
  | .resolve path options =>
    withManifest (manifestAt path) fun manifest =>
      (resolve manifest process options).map (outputOf options)
  | .webType path =>
    withManifest (manifestAt path) fun manifest => .ok (manifest.engine.stack.word ++ "\n")

/-- Whether an invocation comes to look at the variables of the process: it asks for a pass over
a manifest that is there. -/
def looksAtVariables (manifestAt : String → Option Manifest) : Invocation → Bool
  | .resolve path _ => (manifestAt path).isSome
  | _ => false

/-- Where the variables are not looked at, they may be anything. -/
theorem answer_congr_of_not_looksAtVariables {manifestAt : String → Option Manifest}
    {invocation : Invocation} (h : looksAtVariables manifestAt invocation = false)
    (process other : List (String × String)) :
    answer manifestAt process invocation = answer manifestAt other invocation := by
  cases invocation with
  | resolve path options =>
    rw [looksAtVariables] at h
    cases hm : manifestAt path with
    | none => rw [answer, answer, hm, withManifest, withManifest]
    | some manifest => rw [hm] at h; exact nomatch h
  | _ => rfl

end CommandLine
end Activation
