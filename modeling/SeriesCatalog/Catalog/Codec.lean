import SeriesCatalog.Catalog
import SeriesCatalog.Json.Decode

/-! # Catalogs in JSON -/

namespace SeriesCatalog

def ReportedColumn.ofJson (j : Json) : Except Mismatch ReportedColumn := do
  let asByte := Json.asNatural "u8" 256
  let members ← j.asRecord "struct ColumnRow"
    [Json.needed "name" Json.asString, Json.needed "type" Json.asString,
      Json.needed "is_in_sorting_key" asByte]
  let name ← Json.field members "name" Json.asString
  let type ← Json.field members "type" Json.asString
  let key ← Json.field members "is_in_sorting_key" asByte
  return ⟨name, type, key != 0⟩

namespace TableDefinition

def toJson (d : TableDefinition) : Json :=
  .object [("data_source", .string d.dataSource),
    ("timestamp_column", Json.ofOption d.timestamp),
    ("metrics", .array (d.metrics.map .string)),
    ("columns", .object (d.columns.entries.map fun (name, type) => (name, .string type.name))),
    ("intervals", .array (d.intervals.map fun i => .string i.text)),
    ("discover", .bool d.discover)]

/-- The parts of a definition in the order in which a list gives them. -/
def rules : List (FieldRule (Except Mismatch) Json) :=
  [Json.needed "data_source" Json.asString,
    Json.optional "timestamp_column" (Json.asOption Json.asString),
    Json.optional "metrics" (Json.asList Json.asString),
    Json.optional "columns" (Json.asMap Json.asScalarType),
    Json.optional "intervals" (Json.asList Json.asInterval),
    Json.optional "discover" Json.asBool]

/-- Reads a definition; all but the name of the data source may be missing. -/
def ofJson (j : Json) : Except Mismatch TableDefinition := do
  let members ← j.asRecord "struct TableDefinition" rules
  let dataSource ← Json.field members "data_source" Json.asString
  let timestamp ← Json.fieldOr none members "timestamp_column" (Json.asOption Json.asString)
  let metrics ← Json.fieldOr [] members "metrics" (Json.asList Json.asString)
  let columns ← Json.fieldOr NameMap.empty members "columns" (Json.asMap Json.asScalarType)
  let intervals ← Json.fieldOr [] members "intervals" (Json.asList Json.asInterval)
  let discover ← Json.fieldOr false members "discover" Json.asBool
  return ⟨dataSource, timestamp, metrics, columns, intervals, discover⟩

end TableDefinition

namespace Catalog

def toJson (c : Catalog) : Json :=
  .object [("name", .string c.name), ("tables", .array (c.tables.map TableDefinition.toJson))]

/-- The parts of a catalog in the order in which a list gives them. -/
def rules : List (FieldRule (Except Mismatch) Json) :=
  [Json.needed "name" Json.asString,
    Json.optional "tables" (Json.asList TableDefinition.ofJson)]

/-- Reads a catalog; the tables may be missing. -/
def ofJson (j : Json) : Except Mismatch Catalog := do
  let members ← j.asRecord "struct CatalogConfig" rules
  let name ← Json.field members "name" Json.asString
  let tables ← Json.fieldOr [] members "tables" (Json.asList TableDefinition.ofJson)
  return ⟨name, tables⟩

end Catalog

end SeriesCatalog
