import BlockData.Tool.Arguments
import BlockData.Tool.Files

/-!
# Runs by arguments

A run of the tool reads its arguments and executes the command that they
describe. `runOn` is such a run over the files of a directory. The texts about
usage are part of the outer layer, as the reader of the arguments is.
-/

namespace BlockData

/-- The version of the language tools. -/
def version : String :=
  "0.1.0"

end BlockData

namespace BlockData.Tool

/-- How the tool is used. -/
def usageText : String :=
  "Usage: raku [OPTIONS] <COMMAND>\n\n" ++
  "Commands:\n" ++
  "  parse   Parse a .raku file and print its tree\n" ++
  "  check   Check a .raku file for errors without printing anything\n" ++
  "  tokens  Print the token stream of a .raku file\n" ++
  "  fmt     Reformat a .raku file into canonical layout\n" ++
  "  help    Print this message or the help of the given subcommand(s)\n\n" ++
  "Options:\n" ++
  "  -v, --verbose...  Increase log verbosity (-v info, -vv debug, -vvv trace)\n" ++
  "  -h, --help        Print help\n" ++
  "  -V, --version     Print version\n"

/-- What the tool is, and how it is used. -/
def helpText : String :=
  "Raku — data definition and scripting language tools\n\n" ++ usageText

/-- The outcome of a run in which no command is executed. -/
def Refusal.outcome : Refusal → Outcome
  | .usage error => { code := 2, stderr := "error: " ++ error.message ++ "\n\n" ++ usageText }
  | .help => { stdout := helpText }
  | .version => { stdout := "raku " ++ BlockData.version ++ "\n" }

/-- The pretty text of a JSON value, which always has one. -/
def prettyJson (value : Json) : Except String String :=
  .ok (value.render true)

/-- A run of the tool over some files. -/
def runOn (files : Files) (arguments : List String) : Outcome × Files :=
  match readArguments arguments with
  | .error refusal => (refusal.outcome, files)
  | .ok command =>
      let (outcome, after) := command.runOn prettyJson files.system
      (outcome, files.withContent after.content)

end BlockData.Tool
