import SeriesCatalog.Proofs.NewTables
import SeriesCatalog.Proofs.Registration
import SeriesCatalog.Proofs.Seeds
import SeriesCatalog.Proofs.Validation

/-! # Seeds along a history

Each call that registers a table hands over its seed, and only a refresh goes back to the seed that
is there. So the seed of an entry is always the one that was given last, whatever was discovered in
between, and a refresh gives the table that this seed would give in a schema without a history.
-/

namespace SeriesCatalog

/-- The seed that a call gives to the table of a name, if it registers that table anew. -/
def Call.given (s : Schema) (name : String) : Call → Option TableSeed
  | .add store other seed =>
    if other = name ∧ (s.add store other seed).2.result.toOption.isSome then some seed else none
  | .discover store timestamp =>
    if name ∉ s.tableNames ∧ name ∈ (s.discover store timestamp).1.tableNames then
      some (Schema.discoverySeed timestamp)
    else none
  | .refresh .. => none

/-- The seed that a schema begins with for the table of a name. -/
def Origin.seed? (name : String) : Origin → Option TableSeed
  | .new .. => none
  | .ofCatalog catalog .. => (catalog.tables.find? (·.dataSource == name)).map (·.seed)

namespace Schema

def seed? (s : Schema) (name : String) : Option TableSeed :=
  (s.entry? name).map Entry.seed

/-- The seed that was given last for the table of a name, while the calls were made in turn. -/
def lastGiven (s : Schema) (name : String) : List Call → Option TableSeed
  | [] => none
  | c :: rest => (lastGiven (s.call c) name rest).or (c.given s name)

theorem seed?_register (s : Schema) (name other : String) (seed : TableSeed) (table : Table) :
    seed? (s.register name seed table).1 other =
      if other = name then some seed else s.seed? other := by
  unfold seed?
  rw [entry?_register]
  split <;> rfl

theorem seed?_add (s : Schema) (store : Store) (name other : String) (seed : TableSeed) :
    seed? (s.add store name seed).1 other =
      if other = name ∧ (s.add store name seed).2.result.toOption.isSome then some seed
      else s.seed? other := by
  cases built : (s.build store name seed).result with
  | error e =>
    rw [add_failed built]
    exact (if_neg (by simp [Except.toOption])).symm
  | ok table =>
    rw [add_built built, seed?_register]
    simp [Except.toOption]

theorem seed?_refresh (s : Schema) (store : Store) (name other : String) :
    seed? (s.refresh store name).1 other = s.seed? other := by
  cases found : s.seed? name with
  | none =>
    have idle : s.refresh store name = _ := @attempt_unseeded s name .refresh found store
    rw [idle]
  | some seed =>
    have again : s.refresh store name = _ := @attempt_seeded s name .refresh seed found store
    rw [again, seed?_add]
    split
    · rename_i same
      rw [same.1, found]
    · rfl

theorem Extends.seed? {s last : Schema} {store : Store} {timestamp : Option String}
    {names : List String} (extended : Extends store timestamp s names last) (name : String) :
    last.seed? name =
      if name ∉ s.tableNames ∧ name ∈ last.tableNames then some (discoverySeed timestamp)
      else s.seed? name := by
  by_cases member : name ∈ names
  · have unknown := not_mem_tableNames_iff.2 (extended.fresh name member)
    obtain ⟨entry, found, seeded, -⟩ := extended.added name member
    rw [if_pos ⟨unknown, (extended.tableNames name).2 (.inr member)⟩, Schema.seed?, found,
      Option.map_some, seeded]
  · have old : ¬ (name ∉ s.tableNames ∧ name ∈ last.tableNames) := by
      rintro ⟨unknown, known⟩
      rcases (extended.tableNames name).1 known with before | new
      · exact unknown before
      · exact member new
    rw [if_neg old, Schema.seed?, Schema.seed?, extended.kept name member]

/-- After a call a table has the seed that the call gives, or else the one that it had. -/
theorem seed?_call (s : Schema) (name : String) (c : Call) :
    seed? (s.call c) name = (c.given s name).or (s.seed? name) := by
  cases c with
  | add store other seed =>
    rw [call, seed?_add, Call.given]
    by_cases same : name = other
    · subst same
      split <;> simp
    · have different : ¬ other = name := fun equal => same equal.symm
      simp only [same, different, false_and, if_false, Option.none_or]
  | discover store timestamp =>
    obtain ⟨names, extended⟩ := exists_discover_extends s store timestamp
    rw [call, extended.seed? name, Call.given]
    split <;> simp
  | refresh store other =>
    rw [call, seed?_refresh, Call.given, Option.none_or]

theorem seed?_run (s : Schema) (name : String) (calls : List Call) :
    seed? (s.run calls) name = (s.lastGiven name calls).or (s.seed? name) := by
  induction calls generalizing s with
  | nil => rfl
  | cons c rest ih =>
    have step : seed? (s.run (c :: rest)) name = seed? ((s.call c).run rest) name := rfl
    rw [step, ih, seed?_call, lastGiven, Option.or_assoc]

theorem seed?_addDefinitions {definitions : List TableDefinition} {s last : Schema} {store : Store}
    (distinct : (definitions.map (·.dataSource)).Nodup)
    (added : (s.addDefinitions store definitions).result = .ok last) (name : String) :
    last.seed? name =
      ((definitions.find? (·.dataSource == name)).map (·.seed)).or (s.seed? name) := by
  induction definitions generalizing s with
  | nil =>
    cases added
    rfl
  | cons d rest ih =>
    obtain ⟨absent, distinct⟩ := List.nodup_cons.1 distinct
    rw [addDefinitions_cons] at added
    obtain ⟨entry, first, others⟩ := Exchange.bind_result_ok added
    rw [ih distinct others, seed?_add, List.find?_cons]
    -- The rest has no definition of the first name, so that its seed stays.
    by_cases same : name = d.dataSource
    · subst same
      have none : rest.find? (·.dataSource == d.dataSource) = none := by
        refine List.find?_eq_none.2 fun other member => ?_
        intro equal
        exact absent (List.mem_map.2 ⟨other, member, by simpa using equal⟩)
      simp [none, first, Except.toOption]
    · have different : (d.dataSource == name) = false := by
        simpa using fun equal => same equal.symm
      simp [same, different]

theorem seed?_origin {origin : Origin} {start : Schema}
    (opened : origin.schema.result = .ok start) (name : String) :
    start.seed? name = origin.seed? name := by
  cases origin with
  | new title database =>
    cases opened
    rfl
  | ofCatalog catalog database store =>
    simp only [Origin.schema, ofCatalog] at opened
    split at opened
    · cases opened
    · rename_i valid
      obtain ⟨-, distinct, -⟩ := Catalog.validate_ok_iff.1 valid
      rw [seed?_addDefinitions distinct opened, Origin.seed?]
      exact Option.or_none

/-- Whatever calls and stores came before, a refresh that succeeds keeps the seed that was given
last, and the table is the one that this seed gives in a new schema over the present store. So it
has nothing that is neither in the seed nor in the store any more. -/
theorem refresh_from_last_seed {origin : Origin} {start : Schema} {database : String}
    (opened : origin.schema.result = .ok start) (sourced : start.database = some database)
    (calls : List Call) (store : Store) {name : String} {entry : Entry}
    (refreshed : (refresh (start.run calls) store name).2.result = .ok entry) :
    ∃ seed, (start.lastGiven name calls).or (origin.seed? name) = some seed ∧
      entry? (refresh (start.run calls) store name).1 name = some entry ∧ entry.seed = seed ∧
      (∀ title, ∃ fresh,
        ((new title (some database)).add store name seed).2.result = .ok fresh ∧
          fresh.table = { entry.table with owner := title }) ∧
      DrawsOn entry.table seed (if seed.discover then some ⟨database, store⟩ else none) := by
  have kept : (start.run calls).database = some database :=
    (run_registers start calls).database.trans sourced
  obtain ⟨seed, table, seeded, built, rfl, after⟩ :=
    @attempt_ok (start.run calls) store name .refresh entry refreshed
  have last : seed? (start.run calls) name = some seed := seeded
  rw [seed?_run, seed?_origin opened] at last
  refine ⟨seed, last, ?_, rfl, fun title => ?_, ?_⟩
  · have same : (refresh (start.run calls) store name).1 = _ := after
    rw [same, entry?_register, if_pos rfl]
  · have elsewhere : ((new title (some database)).build store name seed).result =
        .ok { table with owner := title } := by
      rw [@build_elsewhere _ store name seed (start.run calls) kept.symm, built]
      rfl
    rw [add_built elsewhere]
    exact ⟨_, rfl, rfl⟩
  · have drawn := build_drawsOn built
    have asked : asked (start.run calls) store seed =
        if seed.discover then some ⟨database, store⟩ else none := by
      rw [Schema.asked, source_eq kept]
    rw [asked] at drawn
    exact drawn

/-- The server of sales, when all columns but one and all rows are gone. -/
def emptied : Store :=
  { Store.sales with
    columns := fun _ => .ok [⟨"ts", "DateTime", true⟩]
    bounds := fun _ _ => .ok ⟨0, 0, 0⟩ }

/-- The table is discovered with three columns, fails to be refreshed once, and is then refreshed.
-/
theorem sales_refresh_forgets :
    ∃ entry seed,
      (refresh ((new "shop" (some "db")).run salesCalls) emptied "sales").2.result = .ok entry ∧
      entry.table.columns.contains "buyers" = false ∧
      (lastGiven (new "shop" (some "db")) "sales" salesCalls).or none = some seed ∧
      entry.seed = seed ∧
      DrawsOn entry.table seed (if seed.discover then some ⟨"db", emptied⟩ else none) := by
  obtain ⟨entry, refreshed, forgotten⟩ := Outcome.exists_ok_of_any
    (x := (refresh ((new "shop" (some "db")).run salesCalls) emptied "sales").2.result)
    (p := fun entry => !entry.table.columns.contains "buyers") (by decide +kernel)
  have opened : (Origin.new "shop" (some "db")).schema.result = .ok (new "shop" (some "db")) := rfl
  obtain ⟨seed, last, -, same, -, drawn⟩ :=
    refresh_from_last_seed opened rfl salesCalls emptied refreshed
  refine ⟨entry, seed, refreshed, ?_, last, same, drawn⟩
  simpa using forgotten

end Schema

end SeriesCatalog
