import SeriesCatalog.Program
import SeriesCatalog.Proofs.Documents
import SeriesCatalog.Proofs.History

/-! # Requests with data from outside

Intervals come from outside as literals, which are read only in UTC, or as numbers of milliseconds,
which have no calendar. So of a catalog that was read and of stores that answer as they like, no
interval reaches a table that is not in UTC, and every table covers at least one interval.
-/

namespace SeriesCatalog

/-- A request that brings no intervals along. -/
inductive Request where
  | discover (store : Store) (timestamp : Option String)
  | refresh (store : Store) (name : String)
  /-- Looks a table up for the program, which discovers it if the schema does not have it. -/
  | find (w : World) (settings : Settings) (name : String)

namespace Request

/-- The store as it is when the request is made. -/
def store : Request → Store
  | .discover store _ => store
  | .refresh store _ => store
  | .find w settings _ => settings.access w.store

/-- The schema after the request, and whether the request succeeded. -/
def perform (s : Schema) : Request → Schema × Except CatalogError Unit
  | .discover store timestamp =>
    let (after, added) := s.discover store timestamp
    (after, added.result.map fun _ => ())
  | .refresh store name =>
    let (after, refreshed) := s.refresh store name
    (after, refreshed.result.map fun _ => ())
  | .find w settings name =>
    let (after, found) := Program.tableOrDiscover w settings s name
    (after, found.result.map fun _ => ())

def calls (s : Schema) : Request → List Call
  | .discover store timestamp => [.discover store timestamp]
  | .refresh store name => [.refresh store name]
  | .find w settings name =>
    if (s.entry? name).isSome then []
    else [.add (settings.access w.store) name (Schema.discoverySeed (some settings.timestamp))]

end Request

/-- All intervals that the seed lists are expressed in UTC. -/
def TableSeed.Canonical (seed : TableSeed) : Prop :=
  ∀ given, seed.metadata.intervals = some given → ∀ i ∈ given, i.isCanonical = true

theorem TableDefinition.Canonical.seed {d : TableDefinition} (canonical : d.Canonical) :
    d.seed.Canonical := by
  intro given listed
  unfold TableDefinition.seed at listed
  dsimp only at listed
  split at listed
  · cases listed
  · cases listed
    exact canonical

namespace Origin

/-- The catalog, if there is one, was read from a document. -/
def External : Origin → Prop
  | .new .. => True
  | .ofCatalog catalog .. => catalog.IsRead

/-- The intervals that the catalog lists for a table, if it lists any. -/
def declared? (name : String) : Origin → Option (List Interval)
  | .new .. => none
  | .ofCatalog catalog .. =>
    (catalog.tables.find? (·.dataSource == name)).bind fun d =>
      if d.intervals = [] then none else some d.intervals

/-- The store that the tables of the catalog are built from. -/
def store? : Origin → Option Store
  | .new .. => none
  | .ofCatalog _ _ store => some store

theorem declared?_ne_nil (origin : Origin) (name : String) : origin.declared? name ≠ some [] := by
  cases origin with
  | new => exact nofun
  | ofCatalog catalog database store =>
    intro listed
    obtain ⟨d, -, same⟩ := Option.bind_eq_some_iff.1 listed
    split at same
    · cases same
    · rename_i nonempty
      exact nonempty (Option.some.inj same)

theorem intervals_seed? (origin : Origin) (name : String) :
    (origin.seed? name).bind (·.metadata.intervals) = origin.declared? name := by
  cases origin with
  | new => rfl
  | ofCatalog catalog database store =>
    rw [seed?, declared?, Option.bind_map]
    congr 1
    funext d
    cases none : d.intervals <;> simp [TableDefinition.seed, none]

end Origin

namespace Schema

/-- The schema after some requests, whether they succeed or not. -/
def serve (s : Schema) (requests : List Request) : Schema :=
  requests.foldl (fun before request => (request.perform before).1) s

/-- The store of the request that built the table of a name last, among some requests in turn. -/
def lastStore (s : Schema) (name : String) : List Request → Option Store
  | [] => none
  | request :: rest =>
    (lastStore (request.perform s).1 name rest).or
      (if entry? (request.perform s).1 name = s.entry? name then none else some request.store)

theorem perform_eq_run (s : Schema) (request : Request) :
    (request.perform s).1 = s.run (request.calls s) := by
  cases request with
  | discover => rfl
  | refresh => rfl
  | find w settings name =>
    simp only [Request.perform, Request.calls, Program.tableOrDiscover]
    cases s.entry? name <;> rfl

/-- An entry after a call is an earlier one, or its table was built in the store of the call. -/
theorem call_entry {s : Schema} {c : Call} {name : String} {entry : Entry}
    (found : entry? (s.call c) name = some entry) :
    s.entry? name = some entry ∨
      (s.build c.store name entry.seed).result = .ok entry.table := by
  have attempted : ∀ (store : Store) (other : String) (request : Registration),
      entry? (s.attempt store other request).1 name = some entry →
      s.entry? name = some entry ∨ (s.build store name entry.seed).result = .ok entry.table := by
    intro store other request found
    cases result : (s.attempt store other request).2.result with
    | error e =>
      rw [attempt_refused (attempt_error_iff.1 result)] at found
      exact .inl found
    | ok registered =>
      obtain ⟨seed, table, -, built, -, after⟩ := attempt_ok result
      rw [after, entry?_register] at found
      split at found
      · rename_i same
        subst same
        cases found
        exact .inr built
      · exact .inl found
  cases c with
  | add store other seed => exact attempted store other (.add seed) found
  | refresh store other => exact attempted store other .refresh found
  | discover store timestamp =>
    obtain ⟨names, extended⟩ := exists_discover_extends s store timestamp
    by_cases member : name ∈ names
    · obtain ⟨added, same, seeded, built, -⟩ := extended.added name member
      have equal := same.symm.trans found
      cases equal
      exact .inr (seeded.symm ▸ built)
    · have old : s.entry? name = some entry := (extended.kept name member).symm.trans found
      exact .inl old

theorem perform_entry {s : Schema} {request : Request} {name : String} {entry : Entry}
    (found : entry? (request.perform s).1 name = some entry) :
    s.entry? name = some entry ∨
      (s.build request.store name entry.seed).result = .ok entry.table := by
  cases request with
  | discover store timestamp => exact @call_entry s (.discover store timestamp) name entry found
  | refresh store other => exact @call_entry s (.refresh store other) name entry found
  | find w settings other =>
    rw [perform_eq_run] at found
    by_cases known : (s.entry? other).isSome = true
    · rw [Request.calls, if_pos known] at found
      exact .inl found
    · rw [Request.calls, if_neg known] at found
      exact @call_entry s (.add (settings.access w.store) other _) name entry found

/-- The table of the name, if there is one, was built from its seed in that store. -/
def BuiltIn (s : Schema) (name : String) (store? : Option Store) : Prop :=
  ∀ entry, s.entry? name = some entry →
    ∃ store, store? = some store ∧ (s.build store name entry.seed).result = .ok entry.table

theorem perform_build (s : Schema) (request : Request) (store : Store) (name : String)
    (seed : TableSeed) :
    Schema.build (request.perform s).1 store name seed = s.build store name seed := by
  rw [perform_eq_run]
  have registered := run_registers s (request.calls s)
  exact build_congr registered.name registered.database

theorem perform_builtIn {s : Schema} {name : String} {store? : Option Store}
    (built : s.BuiltIn name store?) (request : Request) :
    BuiltIn (request.perform s).1 name
      ((if entry? (request.perform s).1 name = s.entry? name then none
        else some request.store).or store?) := by
  intro entry found
  simp only [perform_build]
  by_cases same : entry? (request.perform s).1 name = s.entry? name
  · obtain ⟨store, known, made⟩ := built entry (same.symm.trans found)
    exact ⟨store, by rw [if_pos same, Option.none_or, known], made⟩
  · rcases perform_entry found with old | made
    · exact absurd (found.trans old.symm) same
    · exact ⟨request.store, by rw [if_neg same, Option.some_or], made⟩

theorem serve_builtIn {s : Schema} {name : String} {store? : Option Store}
    (built : s.BuiltIn name store?) (requests : List Request) :
    (s.serve requests).BuiltIn name ((s.lastStore name requests).or store?) := by
  induction requests generalizing s store? with
  | nil => exact built
  | cons request rest ih =>
    have step := ih (perform_builtIn built request)
    rw [← Option.or_assoc] at step
    exact step

theorem addDefinitions_builtIn {definitions : List TableDefinition} {s last : Schema}
    {store : Store} {name : String} (built : s.BuiltIn name (some store))
    (added : (s.addDefinitions store definitions).result = .ok last) :
    last.BuiltIn name (some store) := by
  induction definitions generalizing s with
  | nil =>
    cases added
    exact built
  | cons d rest ih =>
    rw [addDefinitions_cons] at added
    obtain ⟨_, -, others⟩ := Exchange.bind_result_ok added
    refine ih (fun entry found => ⟨store, rfl, ?_⟩) others
    have same : Schema.build (s.add store d.dataSource d.seed).1 store name entry.seed =
        s.build store name entry.seed := by
      have registered := run_registers s [.add store d.dataSource d.seed]
      exact build_congr registered.name registered.database
    rw [same]
    rcases @call_entry s (.add store d.dataSource d.seed) name entry found with old | made
    · obtain ⟨_, ⟨⟩, made⟩ := built entry old
      exact made
    · exact made

theorem origin_builtIn {origin : Origin} {start : Schema}
    (opened : origin.schema.result = .ok start) (name : String) :
    start.BuiltIn name origin.store? := by
  cases origin with
  | new title database =>
    cases opened
    intro entry found
    cases found
  | ofCatalog catalog database store =>
    simp only [Origin.schema, ofCatalog] at opened
    split at opened
    · cases opened
    · refine addDefinitions_builtIn (fun entry found => ?_) opened
      cases found

/-- A table of the catalog keeps its seed, and any other table was discovered. -/
theorem perform_seed {s : Schema} {name : String} {declared : Option TableSeed}
    (before : s.seed? name = declared ∨
      (declared = none ∧ ∃ timestamp, s.seed? name = some (discoverySeed timestamp)))
    (request : Request) :
    seed? (request.perform s).1 name = declared ∨
      (declared = none ∧
        ∃ timestamp, seed? (request.perform s).1 name = some (discoverySeed timestamp)) := by
  -- Every seed that is given on the way is for a name that had none.
  have step : seed? (request.perform s).1 name = s.seed? name ∨
      (s.seed? name = none ∧
        ∃ timestamp, seed? (request.perform s).1 name = some (discoverySeed timestamp)) := by
    cases request with
    | discover store timestamp =>
      obtain ⟨names, extended⟩ := exists_discover_extends s store timestamp
      have after := extended.seed? name
      split at after
      · rename_i new
        refine .inr ⟨?_, timestamp, after⟩
        rw [seed?, not_mem_tableNames_iff.1 new.1, Option.map_none]
      · exact .inl after
    | refresh store other => exact .inl (seed?_refresh s store other name)
    | find w settings other =>
      rw [perform_eq_run]
      by_cases known : (s.entry? other).isSome = true
      · rw [Request.calls, if_pos known]
        exact .inl rfl
      · rw [Request.calls, if_neg known]
        have after := seed?_add s (settings.access w.store) other name
          (discoverySeed (some settings.timestamp))
        split at after
        · rename_i new
          refine .inr ⟨?_, _, after⟩
          cases found : s.entry? other with
          | none => rw [new.1, seed?, found, Option.map_none]
          | some entry =>
            rw [found] at known
            exact absurd rfl known
        · exact .inl after
  rcases step with same | ⟨absent, given⟩
  · rw [same]
    exact before
  · rcases before with kept | ⟨undeclared, -⟩
    · exact .inr ⟨kept.symm.trans absent, given⟩
    · exact .inr ⟨undeclared, given⟩

theorem serve_seed {s : Schema} {name : String} {declared : Option TableSeed}
    (before : s.seed? name = declared ∨
      (declared = none ∧ ∃ timestamp, s.seed? name = some (discoverySeed timestamp)))
    (requests : List Request) :
    seed? (s.serve requests) name = declared ∨
      (declared = none ∧
        ∃ timestamp, seed? (s.serve requests) name = some (discoverySeed timestamp)) := by
  induction requests generalizing s with
  | nil => exact before
  | cons request rest ih => exact ih (perform_seed before request)

/-- The seed of an entry is that of the catalog, or else that of a discovery. -/
theorem entry_seed {origin : Origin} {start : Schema} (opened : origin.schema.result = .ok start)
    (requests : List Request) {name : String} {entry : Entry}
    (found : entry? (start.serve requests) name = some entry) :
    origin.seed? name = some entry.seed ∨
      (origin.seed? name = none ∧ ∃ timestamp, entry.seed = discoverySeed timestamp) := by
  have seeded : seed? (start.serve requests) name = some entry.seed := by
    rw [seed?, found, Option.map_some]
  rcases serve_seed (.inl (seed?_origin opened name)) requests with same | ⟨undeclared, ts, same⟩
  · exact .inl (same.symm.trans seeded)
  · rw [seeded] at same
    exact .inr ⟨undeclared, ts, Option.some.inj same⟩

theorem discoverySeed_canonical (timestamp : Option String) :
    (discoverySeed timestamp).Canonical := by
  intro given listed
  cases listed

/-- Only a seed that lists an interval in another calendar than UTC fails for one. -/
theorem BuildFailure.inCalendar {s : Schema} {store : Store} {name : String} {seed : TableSeed}
    {e : CatalogError} (failure : BuildFailure s store name seed e) (canonical : seed.Canonical)
    (i : Interval) (dataSource : String) : e ≠ .notCanonical i dataSource := by
  cases failure with
  | source => exact CatalogError.noConfusion
  | unnamed => exact CatalogError.noConfusion
  | notCanonical _ _ listed foreign =>
    have other := List.find?_some foreign
    rw [canonical _ listed _ (List.mem_of_find?_eq_some foreign)] at other
    cases other

theorem attempt_inCalendar {s : Schema} {store : Store} {name : String} {request : Registration}
    (canonical : ∀ seed, request.seed? s name = some seed → seed.Canonical) (i : Interval)
    (dataSource : String) :
    (s.attempt store name request).2.result ≠ .error (.notCanonical i dataSource) := by
  intro failed
  cases attempt_error_iff.1 failed with
  | unbuilt seeded failure => exact failure.inCalendar (canonical _ seeded) i dataSource rfl

theorem discover_inCalendar (s : Schema) (store : Store) (timestamp : Option String) (i : Interval)
    (dataSource : String) :
    (s.discover store timestamp).2.result ≠ .error (.notCanonical i dataSource) := by
  intro failed
  cases sourced : s.database with
  | none =>
    rw [discover_unsourced sourced] at failed
    cases failed
  | some database =>
    rcases discover_error sourced failed with
      ⟨failure, -, other, -⟩ | ⟨_, _, name, _, -, -, unbuilt, -⟩
    · cases other
    · have failure := build_error_iff.1 unbuilt
      exact failure.inCalendar (discoverySeed_canonical timestamp) i dataSource rfl

theorem perform_inCalendar {s : Schema}
    (canonical : ∀ name entry, s.entry? name = some entry → entry.seed.Canonical)
    (request : Request) (i : Interval) (dataSource : String) :
    (request.perform s).2 ≠ .error (.notCanonical i dataSource) := by
  intro failed
  cases request with
  | discover store timestamp =>
    exact discover_inCalendar s store timestamp i dataSource (Outcome.map_eq_error failed)
  | refresh store name =>
    refine @attempt_inCalendar s store name .refresh ?_ i dataSource (Outcome.map_eq_error failed)
    intro seed seeded
    obtain ⟨entry, found, rfl⟩ := Option.map_eq_some_iff.1 seeded
    exact canonical name entry found
  | find w settings name =>
    have failed : (Program.tableOrDiscover w settings s name).2.result = _ :=
      Outcome.map_eq_error failed
    unfold Program.tableOrDiscover at failed
    split at failed
    · cases failed
    · refine @attempt_inCalendar s _ name (.add _) ?_ i dataSource failed
      intro seed seeded
      cases seeded
      exact discoverySeed_canonical _

theorem addDefinitions_inCalendar {definitions : List TableDefinition}
    (canonical : ∀ d ∈ definitions, d.Canonical) (s : Schema) (store : Store) (i : Interval)
    (dataSource : String) :
    (s.addDefinitions store definitions).result ≠ .error (.notCanonical i dataSource) := by
  intro failed
  induction definitions generalizing s with
  | nil => cases failed
  | cons d rest ih =>
    rw [addDefinitions_cons] at failed
    rcases Exchange.bind_result_error failed with first | ⟨_, -, later⟩
    · refine @attempt_inCalendar s store d.dataSource (.add d.seed) ?_ i dataSource first
      intro seed seeded
      cases seeded
      exact (canonical d List.mem_cons_self).seed
    · exact ih (fun other member => canonical other (List.mem_cons_of_mem _ member)) _ later

theorem origin_inCalendar {origin : Origin} (external : origin.External) (i : Interval)
    (dataSource : String) : origin.schema.result ≠ .error (.notCanonical i dataSource) := by
  intro failed
  cases origin with
  | new title database => cases failed
  | ofCatalog catalog database store =>
    simp only [Origin.schema, ofCatalog] at failed
    split at failed
    · rename_i e invalid
      obtain ⟨reason, rfl⟩ := Catalog.validate_error invalid
      cases failed
    · have read : catalog.IsRead := external
      exact addDefinitions_inCalendar read.canonical _ store i dataSource failed

/-- The seeds that requests leave are canonical, for no request brings intervals along. -/
theorem serve_canonical {origin : Origin} {start : Schema} (external : origin.External)
    (opened : origin.schema.result = .ok start) (requests : List Request) (name : String)
    (entry : Entry) (found : entry? (start.serve requests) name = some entry) :
    entry.seed.Canonical := by
  rcases entry_seed opened requests found with declared | ⟨-, timestamp, discovered⟩
  · cases origin with
    | new => cases declared
    | ofCatalog catalog database store =>
      obtain ⟨d, listed, same⟩ := Option.map_eq_some_iff.1 declared
      have read : catalog.IsRead := external
      rw [← same]
      exact (read.canonical d (List.mem_of_find?_eq_some listed)).seed
  · rw [discovered]
    exact discoverySeed_canonical timestamp

theorem entry_declared {origin : Origin} {start : Schema}
    (opened : origin.schema.result = .ok start) (requests : List Request) {name : String}
    {entry : Entry} (found : entry? (start.serve requests) name = some entry) :
    entry.seed.metadata.intervals = origin.declared? name := by
  rw [← origin.intervals_seed? name]
  rcases entry_seed opened requests found with declared | ⟨undeclared, timestamp, discovered⟩
  · rw [declared, Option.bind_some]
  · rw [undeclared, discovered]
    rfl

/-- Requests with data from outside never fail for an interval in another calendar than UTC, and
each table that they leave covers the intervals that the catalog lists, or else the one that the
source observed when the table was built last, or else the default one. -/
theorem external_intervals {origin : Origin} (external : origin.External) :
    (∀ i dataSource, origin.schema.result ≠ .error (.notCanonical i dataSource)) ∧
    ∀ start, origin.schema.result = .ok start → ∀ requests : List Request,
      (∀ request i dataSource,
        (Request.perform (start.serve requests) request).2 ≠
          .error (.notCanonical i dataSource)) ∧
      ∀ name entry, entry? (start.serve requests) name = some entry →
        entry.table.intervals ≠ [] ∧ entry.table.dataSource = name ∧
        (∃ timestamp, entry.seed = (origin.seed? name).getD (discoverySeed timestamp)) ∧
        entry.table.timestamp = entry.seed.timestamp.getD "__time" ∧
        ∃ store, (start.lastStore name requests).or origin.store? = some store ∧
          entry.table.Spans (origin.declared? name)
            (asked (start.serve requests) store entry.seed) := by
  refine ⟨origin_inCalendar external, fun start opened requests => ⟨fun request i dataSource => ?_,
    fun name entry found => ?_⟩⟩
  · exact perform_inCalendar (serve_canonical external opened requests) request i dataSource
  · obtain ⟨store, last, built⟩ :=
      serve_builtIn (origin_builtIn opened name) requests entry found
    have spans := build_spans built
    rw [entry_declared opened requests found] at spans
    obtain ⟨completed, -, -, -, made⟩ := build_completed built
    refine ⟨?_, by rw [made], ?_, by rw [made], store, last, spans⟩
    · exact spans.nonempty (origin.declared?_ne_nil name)
    · rcases entry_seed opened requests found with declared | ⟨undeclared, timestamp, discovered⟩
      · exact ⟨none, by rw [declared, Option.getD_some]⟩
      · exact ⟨timestamp, by rw [undeclared, discovered, Option.getD_none]⟩

/-- Two tables are listed, one of which is new; afterwards the store is gone. -/
def shopRequests : List Request :=
  [.discover (.listing ["visits", "zones"]) (some "ts"), .refresh (.failing .unreachable) "sales"]

/-- The new table covers the interval that the source observes, not the default one. -/
theorem shop_external_intervals :
    ∃ c start entry store, Catalog.ofJson shopDocument = .ok c ∧
      (ofCatalog c (some "db") (.failing .unreachable)).result = .ok start ∧
      entry? (start.serve shopRequests) "zones" = some entry ∧
      entry.table.intervals ≠ [] ∧ entry.table.intervals ≠ [Interval.default] ∧
      entry.table.Spans
        (Origin.declared? "zones" (.ofCatalog c (some "db") (.failing .unreachable)))
        (asked (start.serve shopRequests) store entry.seed) := by
  obtain ⟨c, read, passed⟩ := Outcome.exists_ok_of_any (x := Catalog.ofJson shopDocument)
    (p := fun c => (ofCatalog c (some "db") (.failing .unreachable)).result.toOption.any fun s =>
      Option.any (fun entry => entry.table.intervals != [Interval.default]) <|
        entry? (s.serve shopRequests) "zones")
    (by decide +kernel)
  obtain ⟨start, opened, passed⟩ := Outcome.exists_ok_of_any passed
  obtain ⟨entry, found, observed⟩ := (Option.any_eq_true _ _).1 passed
  have external : Origin.External (.ofCatalog c (some "db") (.failing .unreachable)) :=
    .inl ⟨_, read⟩
  obtain ⟨-, each⟩ := (external_intervals external).2 start opened shopRequests
  obtain ⟨nonempty, -, -, -, store, -, spans⟩ := each "zones" entry found
  refine ⟨c, start, entry, store, read, opened, found, nonempty, ?_, spans⟩
  simpa using observed

end Schema

end SeriesCatalog
