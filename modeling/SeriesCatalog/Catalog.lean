import SeriesCatalog.Table

/-! # Catalogs

A catalog names a schema and defines its tables, each of them with the metadata that is known
before any discovery.
-/

namespace SeriesCatalog

/-- What a table is built from, before any discovery. -/
structure TableSeed where
  metadata : TableMetadata
  timestamp : Option String
  discover : Bool
  deriving DecidableEq, Repr

/-- The definition of a table in a catalog. -/
structure TableDefinition where
  /-- The name of the data source, which is that of the table. -/
  dataSource : String
  timestamp : Option String
  metrics : List String
  columns : NameMap ScalarType
  intervals : List Interval
  discover : Bool
  deriving DecidableEq, Repr

/-- The seed of the table; no intervals means that they are unknown. -/
def TableDefinition.seed (d : TableDefinition) : TableSeed :=
  ⟨⟨d.columns, NameSet.ofNames d.metrics, if d.intervals.isEmpty then none else some d.intervals⟩,
    d.timestamp, d.discover⟩

/-- A schema as it is written in a catalog file. -/
structure Catalog where
  name : String
  tables : List TableDefinition
  deriving DecidableEq, Repr

namespace Catalog

def tableError (table reason : String) : CatalogError :=
  .invalidCatalog ("table '" ++ table ++ "': " ++ reason)

/-- A table that is not discovered declares its timestamp and all its metrics as columns. -/
def validateColumns (d : TableDefinition) : Except CatalogError Unit :=
  let timestamp := d.timestamp.getD defaultTimestamp
  if !d.columns.contains timestamp then
    .error (tableError d.dataSource
      ("timestamp column '" ++ timestamp ++ "' is not declared in columns"))
  else
    match d.metrics.find? fun metric => !d.columns.contains metric with
    | some metric =>
      .error (tableError d.dataSource ("metric '" ++ metric ++ "' is not declared in columns"))
    | none => .ok ()

/-- Validates tables after those with the names seen before. -/
def validateTables (seen : List String) : List TableDefinition → Except CatalogError Unit
  | [] => .ok ()
  | d :: rest => do
    if Text.isAllBlank d.dataSource then
      throw (.invalidCatalog "Table data_source must not be empty")
    if d.dataSource ∈ seen then throw (.invalidCatalog ("Duplicate table: " ++ d.dataSource))
    if !d.discover then validateColumns d
    validateTables (d.dataSource :: seen) rest

/-- Names are not blank and do not repeat, and each table declares the columns that it needs, unless
they are discovered; those are checked when the row type is resolved. -/
def validate (c : Catalog) : Except CatalogError Unit :=
  if Text.isAllBlank c.name then .error (.invalidCatalog "Catalog name must not be empty")
  else validateTables [] c.tables

end Catalog

end SeriesCatalog
