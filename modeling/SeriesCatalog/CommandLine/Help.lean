import SeriesCatalog.Terminal.Page

/-! # Help

What the program says about itself, its commands and its options. Help about an option with a value
shows the variable of the environment that gives the value if the option does not.
-/

namespace SeriesCatalog.CommandLine

open Terminal

/-- An option with a value. -/
structure ValueOption where
  name : String
  valueName : String
  /-- The variable that gives the value if the option does not. -/
  variableName : String
  help : String
  fallback : Option String
  secret : Bool

/-- The options that may stand before the command. -/
def valueOptions : List ValueOption :=
  [⟨"url", "URL", "CLICKHOUSE_URL", "ClickHouse HTTP endpoint", some Settings.default.url, false⟩,
    ⟨"user", "USER", "CLICKHOUSE_USER", "", none, false⟩,
    ⟨"password", "PASSWORD", "CLICKHOUSE_PASSWORD", "", none, true⟩,
    ⟨"database", "DATABASE", "CLICKHOUSE_DATABASE",
      "Database whose tables are exposed as data sources", some Settings.default.database, false⟩,
    ⟨"catalog", "CATALOG", "CLICKSERIES_CATALOG", "YAML catalog with pre-seeded tables", none,
      false⟩,
    ⟨"timestamp-column", "TIMESTAMP_COLUMN", "CLICKSERIES_TIMESTAMP_COLUMN",
      "Timestamp column for tables not listed in the catalog", some Settings.default.timestamp,
      false⟩]

/-- The lines of a text below one another, each with the same blanks before it. -/
def indented (blanks text : String) : String :=
  blanks ++ ("\n" ++ blanks).intercalate ((Text.splitAll '\n' text.toList).map String.ofList)

/-- The lines that help has for an option under an environment. -/
def optionHelp (e : Environment) (o : ValueOption) : List Page :=
  let value := if o.secret then "" else "=" ++ (e.text? o.variableName).getD ""
  let parts := (if o.help.isEmpty then [] else [o.help]) ++
    ["[env: " ++ o.variableName ++ value ++ "]"] ++
    (o.fallback.map fun f => "[default: " ++ f ++ "]").toList
  [[.plain "      ", .strong ("--" ++ o.name), .plain (" <" ++ o.valueName ++ ">")],
    [.plain (indented "          " (" ".intercalate parts))]]

def usage (command arguments : String) : Page :=
  [.heading "Usage:", .plain " ", .strong command, .plain (" " ++ arguments)]

/-- A line about a word that is typed as it stands. -/
def entry (blanks word help : String) : Page :=
  [.plain blanks, .strong word, .plain help]

/-- A line about an option with one letter and with a name. -/
def flagEntry (letter name help : String) : Page :=
  [.plain "  ", .strong letter, .plain ", ", .strong name, .plain help]

def help (e : Environment) : Page :=
  .ofLines ([[.plain "ClickSeries - time-series tables over ClickHouse for relational planners"],
    [], usage "clickseries" "[OPTIONS] <COMMAND>", [], [.heading "Commands:"],
    entry "  " "list" "      List the tables of the schema",
    entry "  " "describe" "  Describe one table and print its translated scan plan",
    entry "  " "help" "      Print this message or the help of the given subcommand(s)", [],
    [.heading "Options:"]] ++ valueOptions.flatMap (optionHelp e) ++
    [flagEntry "-h" "--help" "", [.plain "          Print help"],
      flagEntry "-V" "--version" "", [.plain "          Print version"]])

def listHelp : Page :=
  .ofLines [[.plain "List the tables of the schema"], [], usage "clickseries list" "[OPTIONS]", [],
    [.heading "Options:"],
    entry "      " "--discover" "  Also register every table found in the database",
    flagEntry "-h" "--help" "      Print help"]

def describeHelp : Page :=
  .ofLines [[.plain "Describe one table and print its translated scan plan"], [],
    usage "clickseries describe" "[OPTIONS] <TABLE>", [], [.heading "Arguments:"],
    [.plain "  <TABLE>  "], [], [.heading "Options:"],
    entry "      " "--json" "  Print the description as JSON",
    flagEntry "-h" "--help" "  Print help"]

def helpHelp : Page :=
  .ofLines [[.plain "Print this message or the help of the given subcommand(s)"], [],
    usage "clickseries help" "[COMMAND]...", [], [.heading "Arguments:"],
    [.plain "  [COMMAND]...  Print help for the subcommand(s)"]]

def version : Page := .ofLines [[.plain "clickseries 0.1.0-dev"]]

end SeriesCatalog.CommandLine
