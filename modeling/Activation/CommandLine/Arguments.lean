/-!
# Arguments

An argument of the command line is an option or a plain word.  Options with a
long name follow two dashes; options with a short name follow one, and several of
them may share it.  The value of an option is joined to it, with an equals sign or
in the short form also without one, or it is the next argument, which then must
not look like an option.  After two dashes that stand alone every argument is a
plain word, and so is a single dash anywhere.

Arguments are read in order, and the first one at fault counts.
-/

namespace Activation
namespace CommandLine

/-- The options. -/
inductive Switch where
  /-- Names a unit to be excluded. -/
  | exclude
  /-- Sets the mode of the pre-filter. -/
  | mode
  /-- Sets the form of the output. -/
  | format
  /-- Asks for the report. -/
  | report
  /-- Ignores the exclusions set through variables. -/
  | ignoreVariables
  /-- Asks for more messages about the work in progress. -/
  | verbose
  /-- Asks for help. -/
  | help
  /-- Asks for the version. -/
  | version
  deriving DecidableEq, Repr

namespace Switch

/-- The long name of an option. -/
def longName : Switch → String
  | exclude => "exclude"
  | mode => "mode"
  | format => "format"
  | report => "report"
  | ignoreVariables => "ignore-env-exclude"
  | verbose => "verbose"
  | help => "help"
  | version => "version"

/-- The short name of an option, if it has one. -/
def shortName? : Switch → Option Char
  | exclude => some 'e'
  | verbose => some 'v'
  | help => some 'h'
  | version => some 'V'
  | _ => none

/-- Whether an option has a value. -/
def takesValue : Switch → Bool
  | exclude | mode | format => true
  | _ => false

end Switch

/-- What an argument says. -/
inductive Item where
  /-- An option without a value. -/
  | flag (switch : Switch)
  /-- An option with its value. -/
  | setting (switch : Switch) (value : String)
  /-- A plain word. -/
  | word (text : String)
  /-- Something that is not understood. -/
  | fault
  deriving DecidableEq, Repr

/-- What one argument says, and the option that still waits for its value, if there
is one. -/
abbrev Reading := List Item × Option Switch

/-- The reading of an option with a long name. -/
def readLong (known : List Switch) (text : List Char) : Reading :=
  let name := text.takeWhile (· != '=')
  let joined := text.dropWhile (· != '=')
  match known.find? (·.longName.toList == name) with
  | none => ([.fault], none)
  | some switch =>
    if switch.takesValue then
      if joined.isEmpty then ([], some switch)
      else ([.setting switch (String.ofList (joined.drop 1))], none)
    else if joined.isEmpty then ([.flag switch], none)
    else ([.fault], none)

/-- The reading of options with short names that share a dash. -/
def readShort (known : List Switch) : List Char → Reading
  | [] => ([], none)
  | c :: rest =>
    match known.find? (·.shortName? == some c) with
    | none => ([.fault], none)
    | some switch =>
      if switch.takesValue then
        match rest with
        | [] => ([], some switch)
        | '=' :: value => ([.setting switch (String.ofList value)], none)
        | value => ([.setting switch (String.ofList value)], none)
      else
        let (items, waiting) := readShort known rest
        (.flag switch :: items, waiting)

/-- Whether an argument is an option, or the two dashes after which there are none. -/
def looksLikeOption (argument : String) : Bool :=
  match argument.toList with
  | '-' :: _ :: _ => true
  | _ => false

/-- The reading of one argument. -/
def readArgument (known : List Switch) (argument : String) : Reading :=
  match argument.toList with
  | '-' :: '-' :: text => readLong known text
  | '-' :: c :: text => readShort known (c :: text)
  | _ => ([.word argument], none)

/-- What the arguments say, in order. -/
def readArguments (known : List Switch) : List String → List Item
  | [] => []
  | argument :: rest =>
    if argument = "--" then rest.map .word
    else
      match readArgument known argument with
      | (items, none) => items ++ readArguments known rest
      | (items, some switch) =>
        match rest with
        | [] => items ++ [.fault]
        | value :: rest =>
          if looksLikeOption value then items ++ [.fault]
          else items ++ .setting switch value :: readArguments known rest

end CommandLine
end Activation
