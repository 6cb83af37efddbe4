import Activation.CommandLine.Invocation

/-!
# Help

What is printed when a command is to be explained.
-/

namespace Activation
namespace CommandLine

/-- What is printed for the version. -/
def versionText : String := "autoconf 0.1.0\n"

/-- The lines that explain a command. -/
def helpLines : Topic → List String
  | .program =>
    ["Autoconf - conditional auto-configuration resolver",
      "",
      "Usage: autoconf [OPTIONS] <COMMAND>",
      "",
      "Commands:",
      "  resolve   Resolve the units that apply to a build manifest",
      "  web-type  Print the web application type the manifest's symbols support",
      "  help      Print this message or the help of the given subcommand(s)",
      "",
      "Options:",
      "  -v, --verbose  Enable debug logging",
      "  -h, --help     Print help",
      "  -V, --version  Print version"]
  | .resolve =>
    ["Resolve the units that apply to a build manifest",
      "",
      "Usage: autoconf resolve [OPTIONS] <MANIFEST>",
      "",
      "Arguments:",
      "  <MANIFEST>  Path to the build manifest (TOML)",
      "",
      "Options:",
      "  -e, --exclude <EXCLUDE>   Unit to exclude; may be repeated",
      "  -v, --verbose             Enable debug logging",
      "      --mode <MODE>         Pre-filter mode: auto, serial or parallel",
      "      --format <FORMAT>     Output format [default: text] [possible values: text, json]",
      "      --report              Print the condition evaluation report",
      "      --ignore-env-exclude  Ignore exclusions set through AUTOCONFIGURE_EXCLUDE",
      "  -h, --help                Print help"]
  | .webType =>
    ["Print the web application type the manifest's symbols support",
      "",
      "Usage: autoconf web-type [OPTIONS] <MANIFEST>",
      "",
      "Arguments:",
      "  <MANIFEST>  Path to the build manifest (TOML)",
      "",
      "Options:",
      "  -v, --verbose  Enable debug logging",
      "  -h, --help     Print help"]
  | .help =>
    ["Print this message or the help of the given subcommand(s)",
      "",
      "Usage: autoconf help [COMMAND]...",
      "",
      "Arguments:",
      "  [COMMAND]...  Print help for the subcommand(s)"]

/-- The text that explains a command. -/
def helpText (topic : Topic) : String :=
  String.join ((helpLines topic).map (· ++ "\n"))

end CommandLine
end Activation
