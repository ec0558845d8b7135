import Clausal.Command.Args

/-!
# Help texts
-/

namespace Clausal.HelpTopic

def rootText : String :=
"sqlshape - render JSON clause maps into parameterized PostgreSQL

USAGE:
  sqlshape <COMMAND> [OPTIONS] [FILES...]

COMMANDS:
  render        Render clause maps to SQL text and bound values
  merge         Merge clause maps (later clauses replace earlier ones)
  append        Append clause maps (lists concatenate, conditions AND together)

Each command reads one clause map per file, or a stream of maps from stdin
when no files are given (use \x60-\x60 to name stdin explicitly).

Run \x60sqlshape <command> --help\x60 for more.
"

def renderText : String :=
"USAGE:
  sqlshape render [OPTIONS] [FILES...]

OPTIONS:
  --config <FILE>       Config file path (default: sqlshape.toml, optional)
  --max-depth <N>       Nesting limit; 0 means unbounded (default: 128)
  --format <FORMAT>     Output format: json | text (default: json)
  -h, --help            Print help

ENVIRONMENT:
  SQLSHAPE_LOG          Log filter for stderr diagnostics (default: warn)
"

def mergeText : String :=
"USAGE:
  sqlshape merge [FILES...]

NOTES:
  Prints the merged clause map as JSON. For a clause present in several
  inputs, the last one wins.

OPTIONS:
  -h, --help            Print help
"

def appendText : String :=
"USAGE:
  sqlshape append [FILES...]

NOTES:
  Prints the combined clause map as JSON. Inputs after the first may only
  hold columns, values, where, having, set, order_by, select, join and
  group_by clauses.

OPTIONS:
  -h, --help            Print help
"

def text : HelpTopic → String
  | root => rootText
  | render => renderText
  | merge => mergeText
  | append => appendText

end Clausal.HelpTopic
