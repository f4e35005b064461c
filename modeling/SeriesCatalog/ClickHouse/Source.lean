import SeriesCatalog.Address
import SeriesCatalog.ClickHouse.Query
import SeriesCatalog.Metadata

/-! # The store as a source of metadata

A server answers each query or fails it. Asking keeps a record of the queries that reached the
server, also when the answer is a failure, so that everything a request does is in its value.
-/

namespace SeriesCatalog

open ClickHouse

/-- Why a query has no answer. -/
inductive QueryFailure where
  | unreachable
  | address (fault : AddressFault)
  /-- The scheme of the address is not the one of the server. -/
  | otherScheme
  /-- The name or the password of the user cannot go with a query. -/
  | badHeader
  | unboundArgument
  | refused (text : String)
  | noRow
  deriving DecidableEq, Repr

namespace QueryFailure

def message : QueryFailure → String
  | unreachable | otherScheme => "network error: client error (Connect)"
  | address fault => "invalid params: " ++ fault.message
  | badHeader => "invalid params: failed to parse header value"
  | unboundArgument => "invalid params: invalid SQL: unbound query argument"
  | refused text => "bad response: " ++ String.ofList (Text.trim text.toList)
  | noRow => "no rows returned by a query that expected to return at least one row"

/-- What led to the failure, nearest cause first. -/
def causes : QueryFailure → List String
  | unreachable =>
    ["client error (Connect)", "tcp connect error", "Network is unreachable (os error 101)"]
  | address fault => [fault.message]
  | otherScheme => ["client error (Connect)", "invalid URL, scheme is not http"]
  | badHeader => ["failed to parse header value"]
  | unboundArgument => ["invalid SQL: unbound query argument"]
  | refused _ => []
  | noRow => []

def isAnswer : QueryFailure → Bool
  | refused _ | noRow => true
  | _ => false

end QueryFailure

/-- Why the source has no metadata. -/
inductive MetadataError where
  | unknownDataSource (dataSource : String)
  | query (dataSource : String) (failure : QueryFailure)
  | invalid (dataSource : String) (error : IntervalError)
  deriving DecidableEq, Repr

namespace MetadataError

def message : MetadataError → String
  | unknownDataSource dataSource => "Unknown data source `" ++ dataSource ++ "`"
  | query dataSource failure =>
    "Failed to query metadata for `" ++ dataSource ++ "`: " ++ failure.message
  | invalid dataSource error =>
    "Invalid metadata for `" ++ dataSource ++ "`: " ++ error.message

/-- What led to the error, nearest cause first. -/
def causes : MetadataError → List String
  | query _ failure => failure.message :: failure.causes
  | _ => []

end MetadataError

/-- The name of a table's engine, and the engine with its arguments. -/
structure EngineRow where
  engine : String
  full : String
  deriving DecidableEq, Repr

/-- The rows of a table and the range of a column, in milliseconds. -/
structure BoundsRow where
  rows : Nat
  min : Int
  max : Int
  deriving DecidableEq, Repr

/-- The answers of a server about one database at one time. -/
structure Store where
  names : Except QueryFailure (List String)
  /-- The engine of a table; none if there is no such table. -/
  engine : String → Except QueryFailure (Option EngineRow)
  columns : String → Except QueryFailure (List ReportedColumn)
  bounds : (table column : String) → Except QueryFailure BoundsRow

/-- A store behind a server that gives no answer. -/
def Store.failing (failure : QueryFailure) : Store :=
  ⟨.error failure, fun _ => .error failure, fun _ => .error failure, fun _ _ => .error failure⟩

/-- The outcome of a request together with the queries that the server received for it. -/
structure Exchange (ε α : Type) where
  queries : List String
  result : Except ε α

namespace Exchange

variable {ε ε' α β : Type}

protected def pure (a : α) : Exchange ε α := ⟨[], .ok a⟩

def fail (e : ε) : Exchange ε α := ⟨[], .error e⟩

/-- Goes on with the result; a failure ends the request. -/
protected def bind (x : Exchange ε α) (next : α → Exchange ε β) : Exchange ε β :=
  match x.result with
  | .ok a => ⟨x.queries ++ (next a).queries, (next a).result⟩
  | .error e => ⟨x.queries, .error e⟩

instance : Monad (Exchange ε) where
  pure := Exchange.pure
  bind := Exchange.bind

/-- The same request with its failure reworded. -/
def mapError (f : ε → ε') (x : Exchange ε α) : Exchange ε' α :=
  ⟨x.queries, x.result.mapError f⟩

end Exchange

namespace Store

/-- Sends a query and takes the answer. A query without a text is not sent. -/
def ask {α : Type} (query : Query) (answer : Except QueryFailure α) : Exchange QueryFailure α :=
  match query.sent? with
  | none => .fail .unboundArgument
  | some text =>
    match answer with
    | .ok a => ⟨[text], .ok a⟩
    | .error e => ⟨if e.isAnswer then [text] else [], .error e⟩

end Store

/-- A database of a server, as a source of metadata. -/
structure Source where
  database : String
  store : Store

namespace Source

def names (s : Source) : Exchange MetadataError (List String) :=
  (Store.ask (.names s.database) s.store.names).mapError (.query s.database)

def engine (s : Source) (dataSource : String) : Exchange MetadataError TableEngine := do
  let row ← (Store.ask (.engine s.database dataSource) (s.store.engine dataSource)).mapError
    (.query dataSource)
  match row with
  | some row => return TableEngine.parse row.engine row.full
  | none => .fail (.unknownDataSource dataSource)

def columns (s : Source) (dataSource : String) : Exchange MetadataError (List ReportedColumn) :=
  (Store.ask (.columns s.database dataSource) (s.store.columns dataSource)).mapError
    (.query dataSource)

/-- The interval between the least and the greatest time of a column. -/
def timeBounds (s : Source) (dataSource timestamp : String) :
    Exchange MetadataError (Option Interval) := do
  let row ← (Store.ask (.bounds s.database dataSource timestamp)
    (s.store.bounds dataSource timestamp)).mapError (.query dataSource)
  match observedInterval row.rows row.min row.max with
  | .ok interval => return interval
  | .error e => .fail (.invalid dataSource e)

/-- The engine and the columns of a data source. -/
def describe (s : Source) (dataSource : String) :
    Exchange MetadataError (TableEngine × List ReportedColumn) := do
  let engine ← s.engine dataSource
  let columns ← s.columns dataSource
  return (engine, columns)

/-- Completes metadata by what the store reports. The metadata is given back also if the request
fails, with all that was added to it until then. -/
def complete (s : Source) (dataSource timestamp : String) (metadata : TableMetadata) :
    TableMetadata × Exchange MetadataError Unit :=
  let report := s.describe dataSource
  match report.result with
  | .error e => (metadata, ⟨report.queries, .error e⟩)
  | .ok (engine, columns) =>
    let merged := metadata.merge engine columns timestamp
    if metadata.needsBounds columns timestamp then
      let bounds := s.timeBounds dataSource timestamp
      let queries := report.queries ++ bounds.queries
      match bounds.result with
      | .error e => (merged, ⟨queries, .error e⟩)
      | .ok none => (merged, ⟨queries, .ok ()⟩)
      | .ok (some interval) => ({ merged with intervals := some [interval] }, ⟨queries, .ok ()⟩)
    else (merged, ⟨report.queries, .ok ()⟩)

end Source

end SeriesCatalog
