import SeriesCatalog.Catalog
import SeriesCatalog.TableHandle

/-! # Schemas

A schema holds tables by name, each with the seed that it is rebuilt from. Requests that build
tables are given the store as it is at that time, and return the schema after them: a request that
fails leaves the schema as it was, except that a discovery keeps the tables it had added before.
-/

namespace SeriesCatalog

structure Entry where
  seed : TableSeed
  table : Table
  /-- The number of the registration, which tells the table from earlier ones of its name. -/
  serial : Nat
  deriving DecidableEq, Repr

/-- A named collection of tables. -/
structure Schema where
  name : String
  /-- The database that tables are discovered in, if there is a source at all. -/
  database : Option String
  entries : NameMap Entry
  registrations : Nat
  deriving DecidableEq, Repr

namespace Schema

def new (name : String) (database : Option String) : Schema :=
  ⟨name, database, NameMap.empty, 0⟩

/-- The source of the schema when the store is in a given state. -/
def source (s : Schema) (store : Store) : Option Source :=
  s.database.map (⟨·, store⟩)

def tableNames (s : Schema) : List String :=
  s.entries.keys

def entry? (s : Schema) (name : String) : Option Entry :=
  s.entries.get? name

/-- Builds a table from a seed; only a seed that asks for it is completed from the source. -/
def build (s : Schema) (store : Store) (name : String) (seed : TableSeed) :
    Exchange CatalogError Table :=
  (Table.createDiscovered (some s.name) name seed.metadata seed.timestamp
    (if seed.discover then s.source store else none)).2

def register (s : Schema) (name : String) (seed : TableSeed) (table : Table) : Schema × Entry :=
  let entry : Entry := ⟨seed, table, s.registrations⟩
  ({ s with entries := s.entries.insert name entry, registrations := s.registrations + 1 }, entry)

/-- Builds a table and registers it, in place of an earlier one of its name. -/
def add (s : Schema) (store : Store) (name : String) (seed : TableSeed) :
    Schema × Exchange CatalogError Entry :=
  let built := s.build store name seed
  match built.result with
  | .error e => (s, ⟨built.queries, .error e⟩)
  | .ok table =>
    let (after, entry) := s.register name seed table
    (after, ⟨built.queries, .ok entry⟩)

def notFound (s : Schema) (name : String) : CatalogError :=
  .tableNotFound s.name name

def refresh (s : Schema) (store : Store) (name : String) : Schema × Exchange CatalogError Entry :=
  match s.entry? name with
  | none => (s, .fail (s.notFound name))
  | some entry => s.add store name entry.seed

/-- The seed of a table of which nothing is known but perhaps its timestamp column. -/
def discoverySeed (timestamp : Option String) : TableSeed :=
  ⟨TableMetadata.none, timestamp, true⟩

/-- Adds the listed tables, except those that are known, one after the other until one fails. -/
def addUnknown (s : Schema) (store : Store) (known : List String) (timestamp : Option String) :
    List String → Schema × Exchange CatalogError (List String)
  | [] => (s, Exchange.pure [])
  | name :: rest =>
    if name ∈ known then addUnknown s store known timestamp rest
    else
      let (after, added) := s.add store name (discoverySeed timestamp)
      match added.result with
      | .error e => (after, ⟨added.queries, .error e⟩)
      | .ok _ =>
        let (last, others) := addUnknown after store known timestamp rest
        (last, ⟨added.queries ++ others.queries, others.result.map (name :: ·)⟩)

/-- Adds every table of the source that the schema does not have, and tells their names. -/
def discover (s : Schema) (store : Store) (timestamp : Option String) :
    Schema × Exchange CatalogError (List String) :=
  match s.source store with
  | none => (s, Exchange.pure [])
  | some source =>
    let listed := source.names.mapError CatalogError.metadata
    match listed.result with
    | .error e => (s, ⟨listed.queries, .error e⟩)
    | .ok names =>
      let (after, added) := addUnknown s store s.tableNames timestamp names
      (after, ⟨listed.queries ++ added.queries, added.result⟩)

/-- Adds the tables of a catalog in order until one fails. -/
def addDefinitions (s : Schema) (store : Store) :
    List TableDefinition → Exchange CatalogError Schema
  | [] => Exchange.pure s
  | d :: rest =>
    let (after, added) := s.add store d.dataSource d.seed
    added.bind fun _ => addDefinitions after store rest

/-- The schema of a catalog with all its tables. -/
def ofCatalog (catalog : Catalog) (database : Option String) (store : Store) :
    Exchange CatalogError Schema :=
  match catalog.validate with
  | .error e => .fail e
  | .ok () => addDefinitions (new catalog.name database) store catalog.tables

/-- The handle of a table under a type factory, named after the schema and the table. -/
def tableHandle (s : Schema) (name : String) (factory : TypeFactory) :
    Except CatalogError TableHandle :=
  match s.entry? name with
  | none => .error (s.notFound name)
  | some entry => (entry.table.rowType factory).map fun row => ⟨[s.name, name], row⟩

def recordText (s : Schema) : String :=
  "TimeSeriesSchema \x7b name: " ++ Text.quoted s.name ++ ", tables: [" ++
    ", ".intercalate (s.tableNames.map Text.quoted) ++ "], has_source: " ++
    toString s.database.isSome ++ " \x7d"

end Schema

end SeriesCatalog
