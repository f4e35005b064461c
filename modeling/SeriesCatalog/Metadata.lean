import SeriesCatalog.Interval
import SeriesCatalog.NameMap
import SeriesCatalog.ScalarType
import SeriesCatalog.ClickHouse.ColumnType
import SeriesCatalog.ClickHouse.Engine

/-! # Table metadata

What is known of a table: its columns, the columns that are metrics, and the intervals it covers.
Columns that the store reports complete the metadata without changing what is there.
-/

namespace SeriesCatalog

open ClickHouse

/-- What is known of a table. -/
structure TableMetadata where
  columns : NameMap ScalarType
  metrics : NameSet
  /-- The intervals that the table covers, if they are known. -/
  intervals : Option (List Interval)
  deriving DecidableEq, Repr

def TableMetadata.none : TableMetadata := ⟨NameMap.empty, NameMap.empty, Option.none⟩

/-- A column as the store reports it. -/
structure ReportedColumn where
  name : String
  type : String
  inSortingKey : Bool
  deriving DecidableEq, Repr

/-- A numeric column outside the sorting key that is not the timestamp. -/
def ReportedColumn.isMeasure (c : ReportedColumn) (timestamp : String) : Bool :=
  !c.inSortingKey && c.name != timestamp && (scalarType c.type).isNumeric

/-- The metrics that the engine implies: the columns that it lists and the store reports, or, for an
aggregating engine without such a list, every measure. -/
def engineMetrics (engine : TableEngine) (columns : List ReportedColumn) (timestamp : String) :
    List String :=
  match engine with
  | .summing (first :: rest) =>
    (first :: rest).filter fun name => columns.any fun c => c.name == name
  | engine =>
    if engine.isAggregating then
      (columns.filter (·.isMeasure timestamp)).map (·.name)
    else []

/-- The metrics among reported columns: those of an aggregate type and those that the engine
implies. -/
def classifyMetrics (engine : TableEngine) (columns : List ReportedColumn) (timestamp : String) :
    NameSet :=
  let aggregates := (columns.filter fun c => isAggregateType c.type).map (·.name)
  (NameSet.ofNames aggregates).addAll (engineMetrics engine columns timestamp)

namespace TableMetadata

/-- The metadata completed by reported columns. A column that is known keeps its type. -/
def merge (m : TableMetadata) (engine : TableEngine) (columns : List ReportedColumn)
    (timestamp : String) : TableMetadata :=
  { m with
    columns := columns.foldl (fun known c => known.insertNew c.name (scalarType c.type)) m.columns
    metrics := m.metrics.addAll (classifyMetrics engine columns timestamp).toList }

/-- The intervals are unknown and the timestamp is a reported column, so that its bounds are worth
asking for. -/
def needsBounds (m : TableMetadata) (columns : List ReportedColumn) (timestamp : String) : Bool :=
  m.intervals.isNone && columns.any fun c => c.name == timestamp

end TableMetadata

/-- The greatest number of milliseconds that the store can report. -/
def lastMillis : Int := Int.pow 2 63 - 1

/-- The interval of the rows between two times in milliseconds, both included; a table without rows
has none. The end of the interval is not carried beyond the range of the store's numbers. -/
def observedInterval (rows : Nat) (min max : Int) : Except IntervalError (Option Interval) :=
  if rows = 0 then .ok none
  else (Interval.ofMillis min (if max < lastMillis then max + 1 else lastMillis)).map some

end SeriesCatalog
