import SeriesCatalog.File
import SeriesCatalog.Table
import SeriesCatalog.Json

/-! # Settings

Where the store is, which of its databases is shown, and the catalog file. Settings come from the
command line, from the environment or from a YAML file, and are validated before they are used.
-/

namespace SeriesCatalog

/-- The settings of the program. -/
structure Settings where
  url : String
  user : Option String
  password : Option String
  database : String
  catalogFile : Option String
  timestamp : String
  deriving DecidableEq, Repr

/-- Why there are no settings. -/
inductive SettingsError where
  /-- Some fields must not be empty; the fields and what is said about them. -/
  | invalid (faults : List (String × String))
  | unreadableFile (reason : FileError)
  | unreadableText (content : String) (error : DocumentError)
  deriving DecidableEq, Repr

namespace SettingsError

def faultLines (faults : List (String × String)) : String :=
  "\n".intercalate (faults.map fun (field, fault) => field ++ ": " ++ fault)

def message : SettingsError → String
  | invalid faults => "Validation error: " ++ faultLines faults
  | unreadableFile reason =>
    "Parse error for yaml_file: file read failed - " ++ reason.message
  | unreadableText content error =>
    "Parse error for yaml_content: " ++ content ++ " - " ++ error.message

/-- What led to the error, nearest cause first. -/
def causes : SettingsError → List String
  | invalid faults => [faultLines faults]
  | unreadableFile reason => [reason.message]
  | unreadableText _ error => [error.message]

end SettingsError

namespace Settings

def default : Settings :=
  ⟨"http://localhost:8123", none, none, "default", none, defaultTimestamp⟩

/-- The fields that must not be empty and are, in the order of their names. -/
def faults (s : Settings) : List (String × String) :=
  (if s.url.isEmpty then [("clickhouse_url", "ClickHouse URL cannot be empty")] else []) ++
    (if s.database.isEmpty then [("database", "Database cannot be empty")] else []) ++
    (if s.timestamp.isEmpty then [("timestamp_column", "Timestamp column cannot be empty")]
      else [])

/-- The settings, if no field is empty that must not be. -/
def validated (s : Settings) : Except SettingsError Settings :=
  if s.faults.isEmpty then .ok s else .error (.invalid s.faults)

def toJson (s : Settings) : Json :=
  .object [("clickhouse_url", .string s.url), ("clickhouse_user", Json.ofOption s.user),
    ("clickhouse_password", Json.ofOption s.password), ("database", .string s.database),
    ("catalog_file", Json.ofOption s.catalogFile), ("timestamp_column", .string s.timestamp)]

end Settings

end SeriesCatalog
