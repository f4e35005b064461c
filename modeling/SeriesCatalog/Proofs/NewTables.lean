import SeriesCatalog.Proofs.Building
import SeriesCatalog.Proofs.Calls

/-! # Discovering new tables

A discovery takes the names that the store lists, leaves out those that the schema has, and adds a
table for each of the others until one fails. So the tables that it has added are those of a first
part of the unknown names, and the queries that it has sent are the ones about these names, followed
by the ones about the name that failed.
-/

namespace SeriesCatalog

open ClickHouse

theorem Source.names_result (s : Source) :
    s.names.result = s.store.names.mapError (.query s.database) := by
  change (Store.ask _ _).result.mapError _ = _
  rw [Store.ask_sent rfl]

theorem Source.names_inTurn (s : Source) :
    s.names.AsksInTurn (Query.names s.database).sent?.toList :=
  .mapError (Store.ask_inTurn _ _) _

namespace Schema

/-- The last schema is the first with tables of the names, added in turn. -/
inductive Adds (store : Store) (timestamp : Option String) :
    Schema → List String → Schema → Prop where
  | nil {s : Schema} : Adds store timestamp s [] s
  | cons {s last : Schema} {name : String} {rest : List String} {table : Table} :
      (s.build store name (discoverySeed timestamp)).result = .ok table →
      Adds store timestamp (s.register name (discoverySeed timestamp) table).1 rest last →
      Adds store timestamp s (name :: rest) last

/-- The queries of building the tables of some names. -/
def buildQueries (s : Schema) (store : Store) (timestamp : Option String) (names : List String) :
    List String :=
  names.flatMap fun name => (s.build store name (discoverySeed timestamp)).queries

theorem build_register (s : Schema) (store : Store) (name other : String) (seed given : TableSeed)
    (table : Table) :
    (s.register other given table).1.build store name seed = s.build store name seed :=
  build_congr rfl rfl

theorem buildQueries_register (s : Schema) (store : Store) (timestamp : Option String)
    (names : List String) (name : String) (seed : TableSeed) (table : Table) :
    (s.register name seed table).1.buildQueries store timestamp names =
      s.buildQueries store timestamp names := by
  unfold buildQueries
  simp only [build_register]

theorem addUnknown_filter (s : Schema) (store : Store) (known : List String)
    (timestamp : Option String) (names : List String) :
    s.addUnknown store known timestamp names =
      s.addUnknown store [] timestamp (names.filter (· ∉ known)) := by
  -- The names that are known stay those from before the discovery: one filter does for all steps.
  induction names generalizing s with
  | nil => rfl
  | cons name rest ih =>
    by_cases member : name ∈ known
    · rw [addUnknown, if_pos member, ih]
      simp [member]
    · have kept : (name :: rest).filter (· ∉ known) = name :: rest.filter (· ∉ known) := by
        simp [member]
      rw [kept, addUnknown, if_neg member, addUnknown, if_neg List.not_mem_nil]
      simp only [ih]

variable {s last : Schema} {store : Store} {timestamp : Option String} {names : List String}

theorem addUnknown_failed {name : String} {rest : List String} {e : CatalogError}
    (failed : (s.build store name (discoverySeed timestamp)).result = .error e) :
    s.addUnknown store [] timestamp (name :: rest) =
      (s, ⟨(s.build store name (discoverySeed timestamp)).queries, .error e⟩) := by
  rw [addUnknown, if_neg List.not_mem_nil, add_failed failed]

theorem addUnknown_built {name : String} {rest : List String} {table : Table}
    (built : (s.build store name (discoverySeed timestamp)).result = .ok table) :
    s.addUnknown store [] timestamp (name :: rest) =
      let others := addUnknown (s.register name (discoverySeed timestamp) table).1 store []
        timestamp rest
      (others.1, ⟨(s.build store name (discoverySeed timestamp)).queries ++ others.2.queries,
        others.2.result.map (name :: ·)⟩) := by
  rw [addUnknown, if_neg List.not_mem_nil, add_built built]

theorem addUnknown_ok {added : List String}
    (done : (s.addUnknown store [] timestamp names).2.result = .ok added) :
    added = names ∧ Adds store timestamp s names (s.addUnknown store [] timestamp names).1 ∧
      (s.addUnknown store [] timestamp names).2.queries =
        s.buildQueries store timestamp names := by
  induction names generalizing s added with
  | nil =>
    cases done
    exact ⟨rfl, .nil, rfl⟩
  | cons name rest ih =>
    cases built : (s.build store name (discoverySeed timestamp)).result with
    | error e =>
      rw [addUnknown_failed built] at done
      cases done
    | ok table =>
      rw [addUnknown_built built] at done ⊢
      obtain ⟨others, finished, rfl⟩ := Outcome.map_eq_ok done
      obtain ⟨rfl, adds, queries⟩ := ih finished
      refine ⟨rfl, .cons built adds, ?_⟩
      simp only [queries, buildQueries_register]
      rfl

/-- The tables before the one that fails are added, and nothing is asked about those after it. -/
theorem addUnknown_error {e : CatalogError}
    (failed : (s.addUnknown store [] timestamp names).2.result = .error e) :
    ∃ before name later, names = before ++ name :: later ∧
      (s.build store name (discoverySeed timestamp)).result = .error e ∧
      Adds store timestamp s before (s.addUnknown store [] timestamp names).1 ∧
      (s.addUnknown store [] timestamp names).2.queries =
        s.buildQueries store timestamp (before ++ [name]) := by
  induction names generalizing s with
  | nil => cases failed
  | cons name rest ih =>
    cases built : (s.build store name (discoverySeed timestamp)).result with
    | error reason =>
      rw [addUnknown_failed built] at failed ⊢
      cases failed
      exact ⟨[], name, rest, rfl, built, .nil, (List.append_nil _).symm⟩
    | ok table =>
      rw [addUnknown_built built] at failed ⊢
      have others : (addUnknown (s.register name (discoverySeed timestamp) table).1 store []
          timestamp rest).2.result = .error e :=
        Outcome.map_eq_error failed
      obtain ⟨before, culprit, later, rfl, unbuilt, adds, queries⟩ := ih others
      rw [build_register] at unbuilt
      refine ⟨name :: before, culprit, later, rfl, unbuilt, .cons built adds, ?_⟩
      simp only [queries, buildQueries_register]
      rfl

namespace Adds

theorem kept (adds : Adds store timestamp s names last) {name : String} (other : name ∉ names) :
    last.entry? name = s.entry? name := by
  induction adds with
  | nil => rfl
  | cons _ _ ih =>
    rw [List.mem_cons, not_or] at other
    rw [ih other.2, entry?_register, if_neg other.1]

theorem added (adds : Adds store timestamp s names last) {name : String} (member : name ∈ names) :
    ∃ entry, last.entry? name = some entry ∧ entry.seed = discoverySeed timestamp ∧
      (s.build store name (discoverySeed timestamp)).result = .ok entry.table := by
  induction adds with
  | nil => cases member
  | @cons s last first rest table built adds ih =>
    -- Of a name that comes more than once, the table of its last registration is left.
    by_cases later : name ∈ rest
    · obtain ⟨entry, found, seeded, made⟩ := ih later
      rw [build_register] at made
      exact ⟨entry, found, seeded, made⟩
    · have same : name = first := by
        rcases List.mem_cons.1 member with same | member
        · exact same
        · exact absurd member later
      subst same
      refine ⟨⟨discoverySeed timestamp, table, s.registrations⟩, ?_, rfl, built⟩
      rw [adds.kept later, entry?_register, if_pos rfl]

end Adds

theorem mem_tableNames_iff {name : String} :
    name ∈ s.tableNames ↔ ∃ entry, s.entry? name = some entry :=
  NameMap.mem_keys_iff

theorem not_mem_tableNames_iff {name : String} :
    name ∉ s.tableNames ↔ s.entry? name = none := by
  rw [mem_tableNames_iff, ← Option.isSome_iff_exists, Bool.not_eq_true, Option.isSome_eq_false_iff,
    Option.isNone_iff_eq_none]

/-- The last schema is the first with new tables of the names, each of them built from nothing but
the timestamp column; all other entries are those of the first. -/
structure Extends (store : Store) (timestamp : Option String) (s : Schema) (names : List String)
    (last : Schema) : Prop where
  sorted : last.tableNames.Pairwise (· < ·)
  tableNames : ∀ name, name ∈ last.tableNames ↔ name ∈ s.tableNames ∨ name ∈ names
  fresh : ∀ name ∈ names, s.entry? name = none
  kept : ∀ name, name ∉ names → last.entry? name = s.entry? name
  added : ∀ name ∈ names, ∃ entry, last.entry? name = some entry ∧
    entry.seed = discoverySeed timestamp ∧
    (s.build store name (discoverySeed timestamp)).result = .ok entry.table ∧
    entry.table.timestamp = timestamp.getD "__time"

theorem Adds.extends (adds : Adds store timestamp s names last)
    (unknown : ∀ name ∈ names, name ∉ s.tableNames) : Extends store timestamp s names last where
  sorted := NameMap.keys_sorted _
  tableNames := by
    intro name
    by_cases member : name ∈ names
    · obtain ⟨entry, found, -⟩ := adds.added member
      simp only [mem_tableNames_iff.2 ⟨entry, found⟩, member, or_true]
    · rw [mem_tableNames_iff, adds.kept member, ← mem_tableNames_iff]
      simp only [member, or_false]
  fresh := fun name member => not_mem_tableNames_iff.1 (unknown name member)
  kept := fun name other => adds.kept other
  added := by
    intro name member
    obtain ⟨entry, found, seeded, built⟩ := adds.added member
    obtain ⟨_, -, -, -, made⟩ := build_completed built
    exact ⟨entry, found, seeded, built, by rw [made]; rfl⟩

/-- The queries of a discovery are the one for the names and then those about each of some tables,
for each table the first of those that are planned. -/
structure Asks (database : String) (store : Store) (timestamp : Option String) (s : Schema)
    (names : List String) (queries : List String) : Prop where
  inTurn : queries = (Query.names database).sent?.toList ++ s.buildQueries store timestamp names
  each : ∀ name ∈ names, (s.build store name (discoverySeed timestamp)).queries <+:
    (Source.mk database store).plannedQueries name (timestamp.getD "__time")

theorem discover_unsourced (unsourced : s.database = none) :
    s.discover store timestamp = (s, Exchange.pure []) := by
  have asked : s.source store = none := by rw [source, unsourced, Option.map_none]
  unfold discover
  simp only [asked]

theorem asks_buildQueries {database : String} (sourced : s.database = some database)
    (store : Store) (timestamp : Option String) (names : List String) :
    Asks database store timestamp s names
      ((Query.names database).sent?.toList ++ s.buildQueries store timestamp names) := by
  refine ⟨rfl, fun name _ => ?_⟩
  have asked : s.asked store (discoverySeed timestamp) = some ⟨database, store⟩ :=
    source_eq sourced store
  have queries := s.build_queries store name (discoverySeed timestamp)
  rw [asked] at queries
  exact queries

theorem discover_unlisted {database : String} {failure : QueryFailure}
    (sourced : s.database = some database) (unlisted : store.names = .error failure) :
    s.discover store timestamp =
      (s, ⟨(Source.mk database store).names.queries,
        .error (.metadata (.query database failure))⟩) := by
  have result : (Source.mk database store).names.result = .error (.query database failure) := by
    rw [Source.names_result, unlisted]
    rfl
  unfold discover
  simp only [source_eq sourced store, Exchange.mapError, result, Outcome.mapError_error]

theorem discover_listed {database : String} {listed : List String}
    (sourced : s.database = some database) (listing : store.names = .ok listed) :
    s.discover store timestamp =
      let added := s.addUnknown store [] timestamp (listed.filter (· ∉ s.tableNames))
      (added.1, ⟨(Query.names database).sent?.toList ++ added.2.queries, added.2.result⟩) := by
  have result : (Source.mk database store).names.result = .ok listed := by
    rw [Source.names_result, listing]
    rfl
  have queries := (Source.names_inTurn ⟨database, store⟩).complete listed result
  unfold discover
  simp only [source_eq sourced store, Exchange.mapError, result, Outcome.mapError_ok, queries]
  rw [addUnknown_filter]

/-- A discovery of names that are all known changes nothing and asks for the names only. -/
theorem discover_known {database : String} {listed : List String}
    (sourced : s.database = some database) (listing : store.names = .ok listed)
    (known : ∀ name ∈ listed, name ∈ s.tableNames) :
    s.discover store timestamp = (s, ⟨(Query.names database).sent?.toList, .ok []⟩) := by
  have none : listed.filter (· ∉ s.tableNames) = [] := by
    refine List.filter_eq_nil_iff.2 fun name member => ?_
    simp only [known name member, not_true_eq_false, decide_false, Bool.false_eq_true,
      not_false_eq_true]
  rw [discover_listed sourced listing, none]
  dsimp only [addUnknown, Exchange.pure]
  rw [List.append_nil]

theorem not_known_of_mem_filter {known listed : List String} {name : String}
    (member : name ∈ listed.filter (· ∉ known)) : name ∉ known := by
  simpa using (List.mem_filter.1 member).2

theorem discover_ok {s : Schema} {database : String} (sourced : s.database = some database)
    {added : List String} (done : (s.discover store timestamp).2.result = .ok added) :
    ∃ listed, store.names = .ok listed ∧ added = listed.filter (· ∉ s.tableNames) ∧
      Extends store timestamp s added (s.discover store timestamp).1 ∧
      Asks database store timestamp s added (s.discover store timestamp).2.queries := by
  cases listing : store.names with
  | error failure =>
    rw [discover_unlisted sourced listing] at done
    cases done
  | ok listed =>
    rw [discover_listed sourced listing] at done ⊢
    obtain ⟨rfl, adds, queries⟩ := addUnknown_ok done
    refine ⟨listed, rfl, rfl, adds.extends fun name => not_known_of_mem_filter, ?_⟩
    simp only [queries]
    exact asks_buildQueries sourced store timestamp _

theorem discover_error {s : Schema} {database : String} (sourced : s.database = some database)
    {e : CatalogError} (failed : (s.discover store timestamp).2.result = .error e) :
    (∃ failure, store.names = .error failure ∧ e = .metadata (.query database failure) ∧
      (s.discover store timestamp).1 = s) ∨
    ∃ listed before name later, store.names = .ok listed ∧
      listed.filter (· ∉ s.tableNames) = before ++ name :: later ∧
      (s.build store name (discoverySeed timestamp)).result = .error e ∧
      Extends store timestamp s before (s.discover store timestamp).1 ∧
      Asks database store timestamp s (before ++ [name])
        (s.discover store timestamp).2.queries := by
  cases listing : store.names with
  | error failure =>
    rw [discover_unlisted sourced listing] at failed ⊢
    cases failed
    exact .inl ⟨failure, rfl, rfl, rfl⟩
  | ok listed =>
    rw [discover_listed sourced listing] at failed ⊢
    obtain ⟨before, name, later, split, unbuilt, adds, queries⟩ := addUnknown_error failed
    refine .inr ⟨listed, before, name, later, rfl, split, unbuilt, adds.extends ?_, ?_⟩
    · intro early member
      exact not_known_of_mem_filter (split ▸ List.mem_append_left _ member)
    · simp only [queries]
      exact asks_buildQueries sourced store timestamp _

/-- However a discovery ends, it leaves the schema with more tables or as it was. -/
theorem exists_discover_extends (s : Schema) (store : Store) (timestamp : Option String) :
    ∃ names, Extends store timestamp s names (s.discover store timestamp).1 := by
  have same : Extends store timestamp s [] s := Adds.nil.extends fun name member => by
    cases member
  cases sourced : s.database with
  | none =>
    rw [discover_unsourced sourced]
    exact ⟨[], same⟩
  | some database =>
    cases result : (s.discover store timestamp).2.result with
    | ok added =>
      obtain ⟨_, _, _, extended, _⟩ := discover_ok sourced result
      exact ⟨added, extended⟩
    | error e =>
      rcases discover_error sourced result with
        ⟨_, _, _, unchanged⟩ | ⟨_, before, _, _, _, _, _, extended, _⟩
      · exact ⟨[], unchanged.symm ▸ same⟩
      · exact ⟨before, extended⟩

/-- A discovery that succeeds adds the listed names that the schema does not have, and the same
discovery after it finds nothing to do. One that fails has added the names before the one that
failed, and has asked about none after it. -/
theorem discover_adds_new_names {s : Schema} {database : String}
    (sourced : s.database = some database) (store : Store) (timestamp : Option String) :
    (∀ added, (s.discover store timestamp).2.result = .ok added →
      ∃ listed, store.names = .ok listed ∧ added = listed.filter (· ∉ s.tableNames) ∧
        Extends store timestamp s added (s.discover store timestamp).1 ∧
        Asks database store timestamp s added (s.discover store timestamp).2.queries ∧
        ∀ (later : Store) (other : Option String), later.names = .ok listed →
          (s.discover store timestamp).1.discover later other =
            ((s.discover store timestamp).1, ⟨(Query.names database).sent?.toList, .ok []⟩)) ∧
    ∀ e, (s.discover store timestamp).2.result = .error e →
      (∃ failure, store.names = .error failure ∧ e = .metadata (.query database failure) ∧
        (s.discover store timestamp).1 = s) ∨
      ∃ listed before name later, store.names = .ok listed ∧
        listed.filter (· ∉ s.tableNames) = before ++ name :: later ∧
        (s.build store name (discoverySeed timestamp)).result = .error e ∧
        Extends store timestamp s before (s.discover store timestamp).1 ∧
        Asks database store timestamp s (before ++ [name])
          (s.discover store timestamp).2.queries := by
  refine ⟨fun added done => ?_, fun e failed => discover_error sourced failed⟩
  obtain ⟨listed, listing, rfl, extended, asks⟩ := discover_ok sourced done
  refine ⟨listed, listing, rfl, extended, asks, fun later other same => ?_⟩
  have kept : (s.discover store timestamp).1.database = some database :=
    (@discover_registers (fun _ _ => True) timestamp (fun _ => trivial) s store).database.trans
      sourced
  refine discover_known kept same fun name member => (extended.tableNames name).2 ?_
  by_cases known : name ∈ s.tableNames
  · exact .inl known
  · exact .inr (List.mem_filter.2 ⟨member, by simpa⟩)

theorem shop_discovers :
    (∃ added, (shop.discover (.listing ["visits", "sales"]) none).2.result = .ok added ∧
      Extends (.listing ["visits", "sales"]) none shop added
        (shop.discover (.listing ["visits", "sales"]) none).1) ∧
    ∃ e before name later,
      (shop.discover (.listing ["sales", "visits", "ghost", "zones"]) none).2.result = .error e ∧
      ["sales", "visits", "ghost", "zones"].filter (· ∉ shop.tableNames) =
        before ++ name :: later ∧
      Extends (.listing ["sales", "visits", "ghost", "zones"]) none shop before
        (shop.discover (.listing ["sales", "visits", "ghost", "zones"]) none).1 := by
  have sourced : shop.database = some "db" := by decide +kernel
  constructor
  · obtain ⟨added, done, -⟩ := Outcome.exists_ok_of_any
      (x := (shop.discover (.listing ["visits", "sales"]) none).2.result) (p := fun _ => true)
      (by decide +kernel)
    obtain ⟨_, _, _, extended, _⟩ := (discover_adds_new_names sourced _ none).1 added done
    exact ⟨added, done, extended⟩
  · obtain ⟨e, failed⟩ := Outcome.exists_error
      (x := (shop.discover (.listing ["sales", "visits", "ghost", "zones"]) none).2.result)
      (by decide +kernel)
    rcases (discover_adds_new_names sourced _ none).2 e failed with
      ⟨failure, unlisted, -⟩ | ⟨listed, before, name, later, same, split, -, extended, -⟩
    · cases unlisted
    · cases same
      exact ⟨e, before, name, later, failed, split, extended⟩

end Schema

end SeriesCatalog
