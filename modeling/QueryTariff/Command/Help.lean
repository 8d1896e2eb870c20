import QueryTariff.Command

/-!
What the program says about itself.
-/

namespace QueryTariff

def programName : String := "graphql-cost"

def versionText : String := programName ++ " 0.0.1\n"

namespace Topic

def about : Topic → String
  | overview => "Estimate how expensive GraphQL operations are before running them."
  | estimate => "Compute the cost and maxNode scores of a query document"
  | inline => "Print a query document with all of its fragment spreads inlined"
  | help => "Print this message or the help of the given subcommand(s)"

def usage : Topic → String
  | overview => " [OPTIONS] [COMMAND]"
  | estimate => " estimate [OPTIONS] --schema <SCHEMA> <QUERY_FILE>"
  | inline => " inline [OPTIONS] <QUERY_FILE>"
  | help => " help [COMMAND]"

/-- One line for each command, argument or option. -/
def details : Topic → List String
  | overview =>
    ["Commands:",
      "  estimate  " ++ about .estimate,
      "  inline    " ++ about .inline,
      "  help      " ++ about .help,
      "",
      "Options:",
      "  -v, --verbose  Enable verbose output.",
      "  -h, --help     Print help",
      "  -V, --version  Print version"]
  | estimate =>
    ["Arguments:",
      "  <QUERY_FILE>  Path to the GraphQL document containing the operation(s) to estimate.",
      "",
      "Options:",
      "      --graphql-file-exts <EXTS>     File extensions of schema files within a directory [default: graphql,graphqls]",
      "      --json                         Emit the metrics as a JSON object rather than as text.",
      "      --max-depth <N>                Maximum nesting depth of selection sets [default: 256]",
      "      --max-expanded-selections <N>  Maximum number of selections after inlining [default: 100000]",
      "      --operation-name <NAME>        Only score the operation with this name.",
      "  -s, --schema <PATH>                A schema file or a directory of schema files; may be repeated.",
      "      --type-costs-file <PATH>       A JSON object mapping type names to non-negative integer weights.",
      "      --variables-file <PATH>        A JSON object of variable values for the operation(s).",
      "  -v, --verbose                      Enable verbose output.",
      "  -h, --help                         Print help"]
  | inline =>
    ["Arguments:",
      "  <QUERY_FILE>  Path to the GraphQL document whose fragment spreads should be inlined.",
      "",
      "Options:",
      "  -v, --verbose  Enable verbose output.",
      "  -h, --help     Print help"]
  | help =>
    ["Arguments:",
      "  [COMMAND]  Print help for the subcommand"]

def text (t : Topic) : String :=
  let head := [t.about, "", "Usage: " ++ programName ++ t.usage, ""]
  String.intercalate "\n" (head ++ t.details) ++ "\n"

end Topic

end QueryTariff
