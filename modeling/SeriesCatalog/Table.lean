import SeriesCatalog.ClickHouse.Source
import SeriesCatalog.File
import SeriesCatalog.Mismatch
import SeriesCatalog.RowType
import SeriesCatalog.Text.Escaped

/-! # Time series tables

A table describes one data source to a planner: its columns, the columns that are metrics, the
column that carries event time and the intervals that the source covers. Its row type is resolved
against the type factory of a planning session.
-/

namespace SeriesCatalog

/-- The timestamp column of tables that name none. -/
def defaultTimestamp : String := "__time"

/-- Why a request to the catalog fails. -/
inductive CatalogError where
  | noOwner (dataSource : String)
  | unnamed
  /-- The caller gave an interval that is not expressed in UTC. -/
  | notCanonical (interval : Interval) (dataSource : String)
  | timestampMissing (table timestamp : String)
  | metricMissing (table metric : String)
  | typeFactory (error : TypeError)
  | metadata (error : MetadataError)
  | tableNotFound (schema table : String)
  | unreadableFile (reason : FileError)
  | unreadableCatalog (error : DocumentError)
  | invalidCatalog (reason : String)
  deriving DecidableEq, Repr

namespace CatalogError

def message : CatalogError → String
  | noOwner dataSource => "Invalid argument: table `" ++ dataSource ++ "` has no owning schema"
  | unnamed => "Invalid argument: data source name must not be empty"
  | notCanonical interval dataSource =>
    "interval " ++ interval.text ++ " of table `" ++ dataSource ++ "` is not in the UTC calendar"
  | timestampMissing table timestamp =>
    "Schema inconsistency in table `" ++ table ++ "`: timestamp field '" ++ timestamp ++
      "' is not present in the row type"
  | metricMissing table metric =>
    "Schema inconsistency in table `" ++ table ++ "`: metric field '" ++ metric ++
      "' is not present in the row type"
  | typeFactory error => "Type factory rejected row type: " ++ error.message
  | metadata error => error.message
  | tableNotFound schema table => "No table named `" ++ table ++ "` in schema `" ++ schema ++ "`"
  | unreadableFile reason => "Failed to read catalog file: " ++ reason.message
  | unreadableCatalog error => "Failed to parse catalog: " ++ error.message
  | invalidCatalog reason => "Invalid catalog configuration: " ++ reason

/-- What led to the error, nearest cause first. -/
def causes : CatalogError → List String
  | typeFactory error => [error.message]
  | metadata error => error.causes
  | _ => []

end CatalogError

/-- The description of one data source. -/
structure Table where
  /-- The name of the schema that the table was made for. -/
  owner : String
  /-- The name of the data source, which is that of the table. -/
  dataSource : String
  /-- The types of the columns, from which the row type is resolved. -/
  columns : NameMap ScalarType
  metrics : NameSet
  timestamp : String
  intervals : List Interval
  deriving DecidableEq, Repr

namespace Table

/-- Makes a table for an owning schema. Without a timestamp or intervals it gets the default ones.
-/
def create (owner : Option String) (dataSource : String) (columns : NameMap ScalarType)
    (metrics : NameSet) (timestamp : Option String) (intervals : Option (List Interval)) :
    Except CatalogError Table :=
  match owner with
  | none => .error (.noOwner dataSource)
  | some owner =>
    if dataSource.isEmpty then .error .unnamed
    else
      let intervals := intervals.getD [Interval.default]
      match intervals.find? fun i => !i.isCanonical with
      | some i => .error (.notCanonical i dataSource)
      | none =>
        .ok ⟨owner, dataSource, columns, metrics, timestamp.getD defaultTimestamp, intervals⟩

/-- Makes a table after a source, if there is one, has completed what is known of it. The metadata
is given back as the source left it, also when no table is made. -/
def createDiscovered (owner : Option String) (dataSource : String) (metadata : TableMetadata)
    (timestamp : Option String) (source : Option Source) :
    TableMetadata × Exchange CatalogError Table :=
  let (completed, request) :=
    match source with
    | none => (metadata, Exchange.pure ())
    | some source => source.complete dataSource (timestamp.getD defaultTimestamp) metadata
  (completed,
    (request.mapError CatalogError.metadata).bind fun _ =>
      ⟨[], create owner dataSource completed.columns completed.metrics timestamp
        completed.intervals⟩)

/-- The row type of the table under a type factory. The timestamp and every metric are among its
fields. -/
def rowType (t : Table) (factory : TypeFactory) : Except CatalogError RowType := do
  let row ← (factory.mapRowType t.columns).mapError CatalogError.typeFactory
  if t.timestamp ∉ row.names then throw (.timestampMissing t.dataSource t.timestamp)
  match t.metrics.toList.find? fun metric => metric ∉ row.names with
  | some metric => throw (.metricMissing t.dataSource metric)
  | none => return row

def isMetric (t : Table) (column : String) : Bool :=
  t.metrics.contains column

/-- The table as a record with named fields, as far as it is shown. -/
def recordText (t : Table) : String :=
  "TimeSeriesTable \x7b data_source: " ++ Text.quoted t.dataSource ++
    ", metric_field_names: \x7b" ++ ", ".intercalate (t.metrics.toList.map Text.quoted) ++
    "\x7d, timestamp_field_name: " ++ Text.quoted t.timestamp ++
    ", intervals: [" ++ ", ".intercalate (t.intervals.map Interval.recordText) ++ "], .. \x7d"

end Table

end SeriesCatalog
