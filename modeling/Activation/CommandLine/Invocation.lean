import Activation.CommandLine.Arguments
import Activation.Prefilter.Mode

/-!
# Invocations

An invocation names a command, and the command works on a manifest.  `resolve`
resolves the units that apply to the build, `web-type` says which web stack its
symbols make, and `help` explains a command.  Every command but `help` takes the
path of the manifest, once, and options; an option that is not collected may be
given once only.

Help and version are asked for at any place, and then nothing that follows is
looked at; but a fault before that place counts first.
-/

namespace Activation
namespace CommandLine

/-- The forms of the output. -/
inductive Form where
  /-- For people. -/
  | text
  /-- For other programs. -/
  | json
  deriving DecidableEq, Repr

/-- The form with a given word, spelled exactly. -/
def Form.ofWord? : String → Option Form
  | "text" => some .text
  | "json" => some .json
  | _ => none

/-- The commands that can be explained. -/
inductive Topic where
  /-- The program as a whole. -/
  | program
  /-- Resolving units. -/
  | resolve
  /-- Deducing the web stack. -/
  | webType
  /-- Explaining. -/
  | help
  deriving DecidableEq, Repr

/-- What a command is told. -/
structure Options where
  /-- The path of the manifest. -/
  path : Option String := none
  /-- The names of exclusions. -/
  exclude : List String := []
  /-- The mode of the pre-filter. -/
  mode : Option PrefilterMode := none
  /-- The form of the output. -/
  form : Option Form := none
  /-- Whether the report is asked for. -/
  report : Bool := false
  /-- Whether the exclusions set through variables are ignored. -/
  ignoreVariables : Bool := false
  /-- Whether more messages are asked for. -/
  verbose : Bool := false
  deriving DecidableEq, Repr

/-- Why arguments are not read to their end. -/
inductive Stop where
  /-- They are not understood. -/
  | misuse
  /-- Help is asked for. -/
  | help
  /-- The version is asked for. -/
  | version
  deriving DecidableEq, Repr

/-- A value where none has been given so far. -/
def once {α : Type} (old : Option α) (value : Option α) : Except Stop (Option α) :=
  match old, value with
  | none, some value => .ok (some value)
  | _, _ => .error .misuse

/-- A flag that has not been set so far. -/
def setOnce (old : Bool) : Except Stop Bool :=
  if old then .error .misuse else .ok true

/-- Options after a further item. -/
def Options.add (options : Options) : Item → Except Stop Options
  | .fault => .error .misuse
  | .word text => do
    let path ← once options.path (if text.isEmpty then none else some text)
    .ok { options with path }
  | .setting .exclude value => .ok { options with exclude := options.exclude ++ [value] }
  | .setting .mode value => do
    let mode ← once options.mode (PrefilterMode.read? value)
    .ok { options with mode }
  | .setting .format value => do
    let form ← once options.form (Form.ofWord? value)
    .ok { options with form }
  | .flag .report => do
    let report ← setOnce options.report
    .ok { options with report }
  | .flag .ignoreVariables => do
    let ignoreVariables ← setOnce options.ignoreVariables
    .ok { options with ignoreVariables }
  | .flag .verbose => do
    let verbose ← setOnce options.verbose
    .ok { options with verbose }
  | .flag .help => .error .help
  | .flag .version => .error .version
  | .setting _ _ | .flag _ => .error .misuse

/-- The options that arguments set. -/
def readOptions (known : List Switch) (arguments : List String) : Except Stop Options :=
  (readArguments known arguments).foldlM Options.add {}

/-- What the program is asked to do. -/
inductive Invocation where
  /-- Nothing that it understands. -/
  | misuse
  /-- To print its version. -/
  | version
  /-- To explain a command. -/
  | help (topic : Topic)
  /-- To resolve the units for the manifest at a path. -/
  | resolve (path : String) (options : Options)
  /-- To say which web stack the symbols of the manifest at a path make. -/
  | webType (path : String)
  deriving DecidableEq, Repr

namespace Invocation

/-- The options of `resolve`. -/
def resolveSwitches : List Switch :=
  [.exclude, .mode, .format, .report, .ignoreVariables, .verbose, .help]

/-- The options of `web-type`. -/
def webSwitches : List Switch := [.verbose, .help]

/-- The options before the command. -/
def programSwitches : List Switch := [.verbose, .help, .version]

/-- The invocation for reading that has stopped. -/
def ofStop (topic : Topic) : Stop → Invocation
  | .misuse => misuse
  | .help => help topic
  | .version => version

/-- The invocation of a command that works on a manifest. -/
def ofOptions (topic : Topic) (command : String → Options → Invocation) :
    Except Stop Options → Invocation
  | .error stop => ofStop topic stop
  | .ok options =>
    match options.path with
    | none => misuse
    | some path => command path options

/-- The invocation of `help`, given the command to be explained. -/
def ofHelp : List String → Invocation
  | [] => help .program
  | ["resolve"] => help .resolve
  | ["web-type"] => help .webType
  | ["help"] => help .help
  | _ => misuse

/-- The invocation of a command. -/
def ofCommand (command : String) (arguments : List String) : Invocation :=
  if command = "resolve" then ofOptions .resolve resolve (readOptions resolveSwitches arguments)
  else if command = "web-type" then
    ofOptions .webType (fun path _ => webType path) (readOptions webSwitches arguments)
  else if command = "help" then ofHelp arguments
  else misuse

/-- The invocation that arguments make, after options before the command. -/
def afterOptions (options : Options) : List String → Invocation
  | [] => misuse
  | argument :: rest =>
    if argument = "--" then misuse
    else if looksLikeOption argument then
      match (readArgument programSwitches argument).1.foldlM Options.add options with
      | .error stop => ofStop .program stop
      | .ok options => afterOptions options rest
    else ofCommand argument rest

/-- The invocation that arguments make. -/
def ofArguments (arguments : List String) : Invocation :=
  afterOptions {} arguments

end Invocation
end CommandLine
end Activation
