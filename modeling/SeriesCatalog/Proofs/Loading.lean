import SeriesCatalog.Program
import SeriesCatalog.Proofs.History

/-! # From the settings to a schema

A command first loads a schema. The schema begins with the tables of the catalog file, or without
any if no such file is configured, and all that it is asked for later goes to the database of the
settings. A run either shows what its command gives or fails with an empty output.
-/

namespace SeriesCatalog

namespace Origin

def title : Origin → String
  | .new name _ => name
  | .ofCatalog catalog .. => catalog.name

def database : Origin → Option String
  | .new _ database => database
  | .ofCatalog _ database _ => database

/-- The tables that the schema begins with, as they are defined. -/
def definitions : Origin → List TableDefinition
  | .new .. => []
  | .ofCatalog catalog .. => catalog.tables

end Origin

namespace Schema

variable {origin : Origin} {start : Schema}

theorem origin_valid {catalog : Catalog} {database : Option String} {store : Store}
    (opened : (ofCatalog catalog database store).result = .ok start) :
    catalog.validate = .ok () ∧
      ((new catalog.name database).addDefinitions store catalog.tables).result = .ok start := by
  unfold ofCatalog at opened
  split at opened
  · cases opened
  · rename_i valid
    exact ⟨valid, opened⟩

theorem origin_named (opened : origin.schema.result = .ok start) :
    start.name = origin.title ∧ start.database = origin.database := by
  cases origin with
  | new name database =>
    cases opened
    exact ⟨rfl, rfl⟩
  | ofCatalog catalog database store =>
    obtain ⟨-, added⟩ := origin_valid opened
    have registered : Registers (fun _ _ => True) (new catalog.name database) start :=
      addDefinitions_registers _ store (fun _ _ => trivial) added
    exact ⟨registered.name, registered.database⟩

theorem origin_seed?_eq (origin : Origin) (name : String) :
    origin.seed? name = (origin.definitions.find? (·.dataSource == name)).map (·.seed) := by
  cases origin <;> rfl

theorem mem_tableNames_iff_seed? {s : Schema} {name : String} :
    name ∈ s.tableNames ↔ (s.seed? name).isSome = true := by
  rw [mem_tableNames_iff, seed?, Option.isSome_map, Option.isSome_iff_exists]

theorem origin_tableNames (opened : origin.schema.result = .ok start) {name : String} :
    name ∈ start.tableNames ↔ ∃ d ∈ origin.definitions, d.dataSource = name := by
  rw [mem_tableNames_iff_seed?, seed?_origin opened, origin_seed?_eq, Option.isSome_map,
    List.find?_isSome]
  simp only [beq_iff_eq]

theorem build_quiet {seed : TableSeed} (declared : seed.discover = false) (s : Schema)
    (store : Store) (name : String) : (s.build store name seed).queries = [] := by
  have queries := s.build_queries store name seed
  rw [asked, declared] at queries
  exact List.prefix_nil.1 queries

theorem add_queries (s : Schema) (store : Store) (name : String) (seed : TableSeed) :
    (s.add store name seed).2.queries = (s.build store name seed).queries := by
  rw [add_eq]
  cases (s.build store name seed).result <;> rfl

/-- Tables that are not discovered are added, or fail to be added, without a query. -/
theorem addDefinitions_quiet {definitions : List TableDefinition}
    (declared : ∀ d ∈ definitions, d.discover = false) (s : Schema) (store : Store) :
    (s.addDefinitions store definitions).queries = [] := by
  induction definitions generalizing s with
  | nil => rfl
  | cons d rest ih =>
    obtain ⟨own, others⟩ := List.forall_mem_cons.1 declared
    rw [addDefinitions_cons, Exchange.bind_queries_quiet fun _ _ => ih others _, add_queries]
    exact build_quiet own s store d.dataSource

theorem origin_quiet (declared : ∀ d ∈ origin.definitions, d.discover = false) :
    origin.schema.queries = [] := by
  cases origin with
  | new => rfl
  | ofCatalog catalog database store =>
    change (ofCatalog catalog database store).queries = []
    unfold ofCatalog
    split
    · rfl
    · exact addDefinitions_quiet declared _ store

end Schema

namespace Program

variable {w : World} {settings : Settings}

def Reads (w : World) (settings : Settings) (catalog : Catalog) : Prop :=
  ∃ path, settings.catalogFile = some path ∧
    Catalog.ofFile (FileText.ofBytes (w.file path)) = .ok catalog

theorem access_cases (settings : Settings) (store : Store) :
    settings.access store = store ∨ ∃ failure, settings.access store = .failing failure := by
  unfold Settings.access
  split
  · exact .inr ⟨_, rfl⟩
  · exact .inl rfl

/-- How the schema of the program comes into being. -/
inductive Opens (w : World) (settings : Settings) : Origin → Prop where
  | database : settings.catalogFile = none →
      Opens w settings (.new settings.database (some settings.database))
  | catalog {catalog : Catalog} : Reads w settings catalog →
      Opens w settings (.ofCatalog catalog (some settings.database) (settings.access w.store))

theorem loadSchema_eq {origin : Origin} (opens : Opens w settings origin) :
    loadSchema w settings = origin.schema.mapError Failure.ofCatalogError := by
  cases opens with
  | database unconfigured =>
    unfold loadSchema
    rw [unconfigured]
    rfl
  | catalog reads =>
    obtain ⟨path, configured, read⟩ := reads
    unfold loadSchema
    simp only [configured, read]
    rfl

theorem loadSchema_ok {start : Schema} (loaded : (loadSchema w settings).result = .ok start) :
    ∃ origin, Opens w settings origin ∧ origin.schema.result = .ok start := by
  have opened : ∃ origin, Opens w settings origin := by
    cases configured : settings.catalogFile with
    | none => exact ⟨_, .database configured⟩
    | some path =>
      cases read : Catalog.ofFile (FileText.ofBytes (w.file path)) with
      | ok catalog => exact ⟨_, .catalog ⟨path, configured, read⟩⟩
      | error e =>
        unfold loadSchema at loaded
        simp only [configured, read] at loaded
        cases loaded
  obtain ⟨origin, opens⟩ := opened
  rw [loadSchema_eq opens] at loaded
  exact ⟨origin, opens, Exchange.mapError_result_ok loaded⟩

namespace Opens

variable {origin : Origin}

theorem sourced (opens : Opens w settings origin) : origin.database = some settings.database := by
  cases opens <;> rfl

theorem defines_iff (opens : Opens w settings origin) {d : TableDefinition} :
    d ∈ origin.definitions ↔ ∃ catalog, Reads w settings catalog ∧ d ∈ catalog.tables := by
  cases opens with
  | database unconfigured =>
    refine ⟨fun defined => ?_, ?_⟩
    · cases defined
    · rintro ⟨_, ⟨path, configured, -⟩, -⟩
      rw [unconfigured] at configured
      cases configured
  | @catalog catalog reads =>
    refine ⟨fun defined => ⟨catalog, reads, defined⟩, ?_⟩
    rintro ⟨other, ⟨path, configured, read⟩, defined⟩
    obtain ⟨_, same, readToo⟩ := reads
    rw [configured] at same
    cases same
    rw [read] at readToo
    cases readToo
    exact defined

end Opens

theorem loadSchema_quiet {catalog : Catalog} (reads : Reads w settings catalog)
    (declared : ∀ d ∈ catalog.tables, d.discover = false) :
    (loadSchema w settings).queries = [] := by
  rw [loadSchema_eq (.catalog reads)]
  exact @Schema.origin_quiet (.ofCatalog catalog _ _) declared

/-- The program is asked for a command under settings, which are valid. -/
structure Asked (w : World) (settings : Settings) (command : Command) : Prop where
  invoked : invocation w = .ok ⟨settings, command⟩
  valid : settings.validated = .ok settings

namespace Asked

variable {command : Command}

theorem run_ok (asked : Asked w settings command) {output : String}
    (done : (execute w ⟨settings, command⟩).result = .ok output) :
    run w = ⟨0, output, some "", (execute w ⟨settings, command⟩).queries⟩ := by
  unfold run
  simp only [asked.invoked, done]

theorem run_error (asked : Asked w settings command) {failure : Failure}
    (failed : (execute w ⟨settings, command⟩).result = .error failure) :
    run w = ⟨1, "", some failure.report, (execute w ⟨settings, command⟩).queries⟩ := by
  unfold run
  simp only [asked.invoked, failed]

theorem queries (asked : Asked w settings command) :
    (run w).queries = (execute w ⟨settings, command⟩).queries := by
  cases done : (execute w ⟨settings, command⟩).result with
  | ok output => rw [asked.run_ok done]
  | error failure => rw [asked.run_error done]

theorem exit_eq_zero_iff (asked : Asked w settings command) :
    (run w).exit = 0 ↔
      ∃ output, (execute w ⟨settings, command⟩).result = .ok output ∧ (run w).output = output := by
  cases done : (execute w ⟨settings, command⟩).result with
  | ok output =>
    rw [asked.run_ok done]
    exact ⟨fun _ => ⟨output, rfl, rfl⟩, fun _ => rfl⟩
  | error failure =>
    rw [asked.run_error done]
    refine ⟨fun zero => ?_, ?_⟩
    · cases zero
    · rintro ⟨output, same, -⟩
      cases same

theorem execute_list {discover : Bool} (asked : Asked w settings (.list discover)) :
    execute w ⟨settings, .list discover⟩ =
      (loadSchema w settings).bind fun schema => list w settings schema discover := by
  unfold execute
  simp only [asked.valid]

end Asked

theorem output_of_failed {w : World} (failed : (run w).exit ≠ 0) : (run w).output = "" := by
  unfold run at failed ⊢
  split
  · rfl
  · rename_i page paged
    simp only [paged] at failed
    exact absurd rfl failed
  · rename_i given invoked
    simp only [invoked] at failed ⊢
    split
    · rename_i output done
      simp only [done] at failed
      exact absurd rfl failed
    · rfl

/-- The text of a catalog with a table that is not discovered. -/
def shopText : String :=
  "name: shop\ntables:\n- data_source: sales\n  columns: \x7b__time: timestamp\x7d\n"

/-- A catalog file with the table of sales, and a store that has two tables. -/
def shopWorld (arguments : List String) : World where
  arguments := ["--url", "http://h", "--catalog", "shop.yaml"] ++ arguments
  environment := []
  file := fun path => if path = "shop.yaml" then .ok shopText.toUTF8 else .error .missing
  store := .listing ["visits", "sales"]

def shopSettings : Settings :=
  { Settings.default with
    url := "http://h"
    catalogFile := some "shop.yaml" }

end Program

end SeriesCatalog
