import SeriesCatalog.Catalog
import SeriesCatalog.File
import SeriesCatalog.Yaml.Decode

/-! # Catalogs in YAML -/

namespace SeriesCatalog

open Yaml.Spot in
/-- Reads a table definition; all but the name of the data source may be missing. -/
def TableDefinition.ofSpot (s : Yaml.Spot) : Yaml.Decoding TableDefinition := do
  let fields ← s.asRecord "struct TableDefinition"
    [needed "data_source" asString, optional "timestamp_column" (asOption asString),
      optional "metrics" (asList asString), optional "columns" (asMap asScalarType),
      optional "intervals" (asList asInterval), optional "discover" asBool]
  let dataSource ← field fields "data_source" asString
  let timestamp ← fieldOr none fields "timestamp_column" (asOption asString)
  let metrics ← fieldOr [] fields "metrics" (asList asString)
  let columns ← fieldOr NameMap.empty fields "columns" (asMap asScalarType)
  let intervals ← fieldOr [] fields "intervals" (asList asInterval)
  let discover ← fieldOr false fields "discover" asBool
  return ⟨dataSource, timestamp, metrics, columns, intervals, discover⟩

namespace Catalog

open Yaml.Spot in
/-- Reads a catalog; the tables may be missing. -/
def ofSpot (s : Yaml.Spot) : Yaml.Decoding Catalog := do
  let fields ← s.asRecord "struct CatalogConfig"
    [needed "name" asString, optional "tables" (asList TableDefinition.ofSpot)]
  let name ← field fields "name" asString
  let tables ← fieldOr [] fields "tables" (asList TableDefinition.ofSpot)
  return ⟨name, tables⟩

def ofText (text : String) : Except CatalogError Catalog :=
  (Yaml.read ofSpot text).mapError .unreadableCatalog

def ofFile (file : FileText) : Except CatalogError Catalog :=
  match file with
  | .error reason => .error (.unreadableFile reason)
  | .ok text => ofText text

end Catalog

end SeriesCatalog
