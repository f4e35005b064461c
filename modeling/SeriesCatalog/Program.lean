import SeriesCatalog.Catalog.Document
import SeriesCatalog.CommandLine
import SeriesCatalog.Environment.File
import SeriesCatalog.Json.Printer
import SeriesCatalog.Plan
import SeriesCatalog.Schema
import SeriesCatalog.Settings.Access

/-! # The program

Lists the tables of a schema or describes one of them. What the program does is a function of its
arguments, its environment, the files that it can read and the store. Nothing is written to the
output unless all goes well.
-/

namespace SeriesCatalog

/-- What the program finds when it runs. -/
structure World where
  arguments : List String
  environment : Environment
  file : String → FileBytes
  store : Store

/-- Why a command fails, with the causes that led to it, nearest first. -/
structure Failure where
  message : String
  causes : List String
  deriving DecidableEq, Repr

namespace Failure

/-- A cause in its own lines: a number or an indentation before the first, and the same width before
the others. -/
def causeText (number : Option Nat) (cause : String) : String :=
  let (first, others) := match number with
    | some n =>
      (String.ofList (List.replicate (5 - (toString n).length) ' ') ++ toString n ++ ": ",
        "       ")
    | none => ("    ", "    ")
  first ++ ("\n" ++ others).intercalate
    ((Text.splitAll '\n' cause.toList).map String.ofList)

/-- The report of a failure. Causes are numbered if there are several. -/
def report (f : Failure) : String :=
  let causes := match f.causes with
    | [] => ""
    | [cause] => "\n\nCaused by:\n" ++ causeText none cause
    | causes =>
      "\n\nCaused by:" ++ String.join
        (causes.mapIdx fun n cause => "\n" ++ causeText (some n) cause)
  "Error: " ++ f.message ++ causes ++ "\n"

def ofCatalogError (e : CatalogError) : Failure := ⟨e.message, e.causes⟩

end Failure

/-- What a run of the program shows. -/
structure Outcome where
  exit : Nat
  output : String
  /-- The text on the error output; there is none for a wrong command line, whose text is open. -/
  error : Option String
  queries : List String
  deriving DecidableEq, Repr

namespace Program

/-- The schema of the catalog file, or of the database if there is no such file. -/
def loadSchema (w : World) (settings : Settings) : Exchange Failure Schema :=
  match settings.catalogFile with
  | none => Exchange.pure (Schema.new settings.database (some settings.database))
  | some path =>
    match Catalog.ofFile (FileText.ofBytes (w.file path)) with
    | .error e => .fail ⟨"loading catalog " ++ path, e.message :: e.causes⟩
    | .ok catalog =>
      (Schema.ofCatalog catalog (some settings.database) (settings.access w.store)).mapError
        Failure.ofCatalogError

/-- The names of the tables, each in a line. Tables are discovered if that is asked for or if there
is no catalog. -/
def list (w : World) (settings : Settings) (schema : Schema) (discover : Bool) :
    Exchange Failure String :=
  let (after, discovered) :=
    if discover || settings.catalogFile.isNone then
      schema.discover (settings.access w.store) (some settings.timestamp)
    else (schema, Exchange.pure [])
  (discovered.mapError Failure.ofCatalogError).bind fun _ =>
    Exchange.pure (String.join (after.tableNames.map (· ++ "\n")))

/-- What is told about a table. -/
structure Description where
  table : String
  timestamp : String
  metrics : List String
  intervals : List Interval
  rowType : RowType
  plan : PlanNode

/-- Adds a table that the schema does not have, as far as the store knows it. -/
def tableOrDiscover (w : World) (settings : Settings) (schema : Schema) (name : String) :
    Schema × Exchange CatalogError Entry :=
  match schema.entry? name with
  | some entry => (schema, Exchange.pure entry)
  | none =>
    schema.add (settings.access w.store) name (Schema.discoverySeed (some settings.timestamp))

/-- Describes a table; it is discovered if the schema does not have it. -/
def describe (w : World) (settings : Settings) (schema : Schema) (name : String) :
    Exchange CatalogError Description :=
  let (after, found) := tableOrDiscover w settings schema name
  found.bind fun entry =>
    let (cluster, _) := Cluster.new Cluster.firstId TypeFactory.permissive
    ⟨[], (after.tableHandle name cluster.factory).map fun handle =>
      ⟨handle.name, entry.table.timestamp, entry.table.metrics.toList, entry.table.intervals,
        handle.rowType, entry.table.plan cluster handle⟩⟩

namespace Description

def toJson (d : Description) : Json :=
  .object [("table", .string d.table), ("timestamp_column", .string d.timestamp),
    ("metrics", .array (d.metrics.map .string)),
    ("intervals", .array (d.intervals.map fun i => .string i.text)),
    ("row_type", d.rowType.toJson), ("plan", .string d.plan.text)]

/-- The description in lines, with the plan after them. -/
def text (d : Description) : String :=
  "Table:     " ++ d.table ++ "\nRow type:  " ++ d.rowType.text ++
    "\nTimestamp: " ++ d.timestamp ++ "\nMetrics:   " ++ ", ".intercalate d.metrics ++
    "\nIntervals: " ++ ", ".intercalate (d.intervals.map Interval.text) ++
    "\n\n" ++ d.plan.text ++ "\n"

end Description

def execute (w : World) (invocation : Invocation) : Exchange Failure String :=
  match invocation.settings.validated with
  | .error e => .fail ⟨"invalid configuration", e.message :: e.causes⟩
  | .ok settings =>
    (loadSchema w settings).bind fun schema =>
      match invocation.command with
      | .list discover => list w settings schema discover
      | .describe table json =>
        ((describe w settings schema table).mapError Failure.ofCatalogError).bind fun d =>
          Exchange.pure (if json then d.toJson.pretty 0 ++ "\n" else d.text)

/-- The environment, which variables in the file `.env` complete. -/
def environment (w : World) : Environment :=
  match w.file ".env" with
  | .ok bytes => EnvironmentFile.load w.environment bytes.toList
  | .error _ => w.environment

def invocation (w : World) : Except Stop Invocation :=
  CommandLine.parse (environment w) w.arguments

def run (w : World) : Outcome :=
  match invocation w with
  | .error .usage => ⟨2, "", none, []⟩
  | .error (.page page) => ⟨0, page.output (environment w), some "", []⟩
  | .ok invocation =>
    let done := execute w invocation
    match done.result with
    | .ok output => ⟨0, output, some "", done.queries⟩
    | .error failure => ⟨1, "", some failure.report, done.queries⟩

end Program

end SeriesCatalog
