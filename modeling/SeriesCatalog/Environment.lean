import SeriesCatalog.Settings

/-! # Environment variables

The variables of the environment by name. Their values need not be texts; a variable whose value is
no text is as good as none for the settings.
-/

namespace SeriesCatalog

/-- The value of a variable. -/
inductive Variable where
  | text (value : String)
  | bytes
  deriving DecidableEq, Repr

/-- The variables by name; of several of one name the first counts. -/
abbrev Environment := List (String × Variable)

namespace Environment

def text? (e : Environment) (name : String) : Option String :=
  match e.lookup name with
  | some (.text value) => some value
  | _ => none

def set (e : Environment) (name value : String) : Environment :=
  (name, .text value) :: e

end Environment

/-- The settings that the environment gives, with defaults for variables that are not set. -/
def Settings.ofEnvironment (e : Environment) : Except SettingsError Settings :=
  let given : Settings :=
    { url := (e.text? "CLICKHOUSE_URL").getD Settings.default.url
      user := e.text? "CLICKHOUSE_USER"
      password := e.text? "CLICKHOUSE_PASSWORD"
      database := (e.text? "CLICKHOUSE_DATABASE").getD Settings.default.database
      catalogFile := e.text? "CLICKSERIES_CATALOG"
      timestamp := (e.text? "CLICKSERIES_TIMESTAMP_COLUMN").getD Settings.default.timestamp }
  given.validated

end SeriesCatalog
