import SeriesCatalog.Settings
import SeriesCatalog.Yaml.Decode

/-! # Settings in YAML -/

namespace SeriesCatalog.Settings

open Yaml.Spot in
/-- Reads settings; user, password and catalog file may be missing. -/
def ofSpot (s : Yaml.Spot) : Yaml.Decoding Settings := do
  let optionalText := asOption asString
  let fields ← s.asRecord "struct AppConfig"
    [needed "clickhouse_url" asString, optional "clickhouse_user" optionalText,
      optional "clickhouse_password" optionalText, needed "database" asString,
      optional "catalog_file" optionalText, needed "timestamp_column" asString]
  let url ← field fields "clickhouse_url" asString
  let user ← fieldOr none fields "clickhouse_user" optionalText
  let password ← fieldOr none fields "clickhouse_password" optionalText
  let database ← field fields "database" asString
  let catalogFile ← fieldOr none fields "catalog_file" optionalText
  let timestamp ← field fields "timestamp_column" asString
  return ⟨url, user, password, database, catalogFile, timestamp⟩

def ofFile (file : FileText) : Except SettingsError Settings :=
  match file with
  | .error reason => .error (.unreadableFile reason)
  | .ok content =>
    match Yaml.read ofSpot content with
    | .error error => .error (.unreadableText content error)
    | .ok settings => settings.validated

end SeriesCatalog.Settings
