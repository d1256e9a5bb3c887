import Reroute.CommandLine.Arguments

/-!
# Help texts

The pages that explain the program and its commands.
-/

namespace Reroute.CommandLine

/-- The name and version of the program. -/
def versionText : String := "rewrite 0.1.0\n"

/-- The page of the program. -/
def topText : String :=
  "rewrite: declarative URL rewrite rules, checked and evaluated offline\n\n" ++
  "Usage: rewrite [OPTIONS] <COMMAND>\n\n" ++
  "Commands:\n" ++
  "  check  Compile a rules file and report what it contains\n" ++
  "  eval   Evaluate one request URL against a rules file\n" ++
  "  dump   Print the compiled rule tree\n" ++
  "  help   Print this message or the help of the given subcommand(s)\n\n" ++
  "Options:\n" ++
  "      --json-logs  Emit logs as JSON instead of human-readable lines\n" ++
  "  -h, --help       Print help\n" ++
  "  -V, --version    Print version\n"

/-- The page of `check`. -/
def checkText : String :=
  "Compile a rules file and report what it contains\n\n" ++
  "Usage: rewrite check [OPTIONS] [PATH]\n\n" ++
  "Arguments:\n" ++
  "  [PATH]  Path to the rules file [default: rules.hcl]\n\n" ++
  "Options:\n" ++
  "      --json-logs  Emit logs as JSON instead of human-readable lines\n" ++
  "  -p, --plain      Print errors without decoration\n" ++
  "  -h, --help       Print help\n"

/-- The page of `eval`. -/
def evalText : String :=
  "Evaluate one request URL against a rules file\n\n" ++
  "Usage: rewrite eval [OPTIONS] <PATH> <URL>\n\n" ++
  "Arguments:\n" ++
  "  <PATH>  Path to the rules file\n" ++
  "  <URL>   Request target, e.g. `/a/b?x=1`\n\n" ++
  "Options:\n" ++
  "      --header <HEADERS>\n" ++
  "          Request header as `name=value` (repeatable)\n" ++
  "      --json-logs\n" ++
  "          Emit logs as JSON instead of human-readable lines\n" ++
  "      --var <VARIABLES>\n" ++
  "          Server variable as `name=value` (repeatable)\n" ++
  "      --trace\n" ++
  "          Print the evaluation trace\n" ++
  "      --json\n" ++
  "          Print the outcome (and trace) as JSON\n" ++
  "      --document-root <DOCUMENT_ROOT>\n" ++
  "          Root for file and directory conditions [default: .]\n" ++
  "      --execute\n" ++
  "          Schedule redirects and responses as a live request would\n" ++
  "  -h, --help\n" ++
  "          Print help\n"

/-- The page of `dump`. -/
def dumpText : String :=
  "Print the compiled rule tree\n\n" ++
  "Usage: rewrite dump [OPTIONS] [PATH]\n\n" ++
  "Arguments:\n" ++
  "  [PATH]  [default: rules.hcl]\n\n" ++
  "Options:\n" ++
  "      --json       Output the parsed document as JSON\n" ++
  "      --json-logs  Emit logs as JSON instead of human-readable lines\n" ++
  "  -h, --help       Print help\n"

/-- The page of `help`. -/
def helpText : String :=
  "Print this message or the help of the given subcommand(s)\n\n" ++
  "Usage: rewrite help [COMMAND]...\n\n" ++
  "Arguments:\n" ++
  "  [COMMAND]...  Print help for the subcommand(s)\n"

/-- The text of a page. -/
def Page.text : Page → String
  | top => topText
  | check => checkText
  | eval => evalText
  | dump => dumpText
  | help => helpText

/-- What is said of arguments that are refused. -/
def refusal : String := "error: the arguments do not fit\n\nFor more information, try '--help'.\n"

end Reroute.CommandLine
