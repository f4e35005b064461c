import SeriesCatalog.Schema
import SeriesCatalog.Proofs.NameMap
import SeriesCatalog.Proofs.Outcome

/-! # Schemas along their calls

However a call ends, it leaves a schema that is got from the one before it by registering tables one
after the other. So what every registration keeps, every run of calls keeps.
-/

namespace SeriesCatalog

/-- A call that may register tables, with the store as it is at that time. -/
inductive Call where
  | add (store : Store) (name : String) (seed : TableSeed)
  /-- Builds the tables that the source has and the schema has not. -/
  | discover (store : Store) (timestamp : Option String)
  | refresh (store : Store) (name : String)

/-- The call hands over the seed for tables of that name. -/
def Call.Hands (name : String) (seed : TableSeed) : Call → Prop
  | .add _ other given => name = other ∧ seed = given
  | .discover _ timestamp => seed = Schema.discoverySeed timestamp
  | .refresh .. => False

def Call.store : Call → Store
  | .add store .. => store
  | .discover store _ => store
  | .refresh store _ => store

/-- How a schema comes into being. -/
inductive Origin where
  | new (name : String) (database : Option String)
  | ofCatalog (catalog : Catalog) (database : Option String) (store : Store)

namespace Origin

/-- The schema at its beginning, if there is one. -/
def schema : Origin → Exchange CatalogError Schema
  | .new name database => Exchange.pure (Schema.new name database)
  | .ofCatalog catalog database store => Schema.ofCatalog catalog database store

/-- The catalog defines a table of that name with that seed. -/
def Hands (name : String) (seed : TableSeed) : Origin → Prop
  | .new .. => False
  | .ofCatalog catalog .. => ∃ d ∈ catalog.tables, name = d.dataSource ∧ seed = d.seed

end Origin

namespace Schema

/-- The schema after a call, whether the call succeeds or not. -/
def call (s : Schema) : Call → Schema
  | .add store name seed => (s.add store name seed).1
  | .discover store timestamp => (s.discover store timestamp).1
  | .refresh store name => (s.refresh store name).1

def run (s : Schema) (calls : List Call) : Schema :=
  calls.foldl call s

/-- The second schema is the first with more tables registered, all of them from allowed seeds. -/
inductive Registers (allowed : String → TableSeed → Prop) (first : Schema) : Schema → Prop where
  | none : Registers allowed first first
  | more {s : Schema} {store : Store} {name : String} {seed : TableSeed} {table : Table} :
      Registers allowed first s → allowed name seed →
        (s.build store name seed).result = .ok table →
        Registers allowed first (s.register name seed table).1

theorem Registers.database {allowed : String → TableSeed → Prop} {first s : Schema}
    (registered : Registers allowed first s) : s.database = first.database := by
  induction registered with
  | none => rfl
  | more _ _ _ ih => exact ih

theorem Registers.name {allowed : String → TableSeed → Prop} {first s : Schema}
    (registered : Registers allowed first s) : s.name = first.name := by
  induction registered with
  | none => rfl
  | more _ _ _ ih => exact ih

theorem Registers.trans {allowed : String → TableSeed → Prop} {first s last : Schema}
    (before : Registers allowed first s)
    (after : Registers allowed s last) : Registers allowed first last := by
  induction after with
  | none => exact before
  | more _ given built ih => exact .more ih given built

theorem Registers.weaken {allowed : String → TableSeed → Prop} {first s : Schema}
    (registered : Registers allowed first s) : Registers (fun _ _ => True) first s := by
  induction registered with
  | none => exact .none
  | more _ _ built ih => exact .more ih trivial built

/-- A registration is local: it sets the entry of its name and no other. -/
theorem entry?_register (s : Schema) (name other : String) (seed : TableSeed) (table : Table) :
    entry? (s.register name seed table).1 other =
      if other = name then some ⟨seed, table, s.registrations⟩ else s.entry? other :=
  NameMap.get?_insert s.entries name other _

/-- A schema after an attempt to add a table is the old one, or that with the table. -/
theorem add_eq (s : Schema) (store : Store) (name : String) (seed : TableSeed) :
    s.add store name seed =
      match (s.build store name seed).result with
      | .error e => (s, ⟨(s.build store name seed).queries, .error e⟩)
      | .ok table =>
        ((s.register name seed table).1,
          ⟨(s.build store name seed).queries, .ok (s.register name seed table).2⟩) := by
  rfl

theorem add_failed {s : Schema} {store : Store} {name : String} {seed : TableSeed}
    {e : CatalogError} (failed : (s.build store name seed).result = .error e) :
    s.add store name seed = (s, ⟨(s.build store name seed).queries, .error e⟩) := by
  rw [add_eq, failed]

theorem add_built {s : Schema} {store : Store} {name : String} {seed : TableSeed} {table : Table}
    (built : (s.build store name seed).result = .ok table) :
    s.add store name seed = ((s.register name seed table).1,
      ⟨(s.build store name seed).queries, .ok (s.register name seed table).2⟩) := by
  rw [add_eq, built]

theorem add_ok {s : Schema} {store : Store} {name : String} {seed : TableSeed} {entry : Entry}
    (added : (s.add store name seed).2.result = .ok entry) :
    ∃ table, (s.build store name seed).result = .ok table ∧
      entry = ⟨seed, table, s.registrations⟩ := by
  cases built : (s.build store name seed).result with
  | error e =>
    rw [add_failed built] at added
    cases added
  | ok table =>
    rw [add_built built] at added
    cases added
    exact ⟨table, rfl, rfl⟩

theorem add_error {s : Schema} {store : Store} {name : String} {seed : TableSeed}
    {e : CatalogError} (failed : (s.add store name seed).2.result = .error e) :
    (s.build store name seed).result = .error e := by
  cases built : (s.build store name seed).result with
  | error reason =>
    rw [add_failed built] at failed
    cases failed
    rfl
  | ok table =>
    rw [add_built built] at failed
    cases failed

theorem add_registers {allowed : String → TableSeed → Prop} (s : Schema) (store : Store)
    {name : String} {seed : TableSeed} (given : allowed name seed) :
    Registers allowed s (s.add store name seed).1 := by
  rw [add_eq]
  cases built : (s.build store name seed).result with
  | error e => exact .none
  | ok table => exact .more .none given built

theorem addUnknown_registers {allowed : String → TableSeed → Prop} {timestamp : Option String}
    (given : ∀ name, allowed name (discoverySeed timestamp)) (s : Schema) (store : Store)
    (known names : List String) :
    Registers allowed s (s.addUnknown store known timestamp names).1 := by
  induction names generalizing s with
  | nil => exact .none
  | cons name rest ih =>
    unfold addUnknown
    split
    · exact ih s
    · -- The rest goes on from the schema that the first addition leaves.
      have added := add_registers s store (given name)
      cases result : (s.add store name (discoverySeed timestamp)).2.result with
      | error e => simpa only [result] using added
      | ok entry => simpa only [result] using added.trans (ih _)

theorem discover_registers {allowed : String → TableSeed → Prop} {timestamp : Option String}
    (given : ∀ name, allowed name (discoverySeed timestamp)) (s : Schema) (store : Store) :
    Registers allowed s (s.discover store timestamp).1 := by
  unfold discover
  split
  · exact .none
  · dsimp only
    split
    · exact .none
    · exact addUnknown_registers given s store _ _

theorem refresh_registers {allowed : String → TableSeed → Prop} (s : Schema) (store : Store)
    (name : String) (given : ∀ entry, s.entry? name = some entry → allowed name entry.seed) :
    Registers allowed s (s.refresh store name).1 := by
  unfold refresh
  split
  · exact .none
  · rename_i entry found
    exact add_registers s store (given entry found)

/-- A call registers the seeds that it hands over, or those that the schema has. -/
theorem call_registers (s : Schema) (c : Call) :
    Registers (fun name seed =>
      c.Hands name seed ∨ ∃ entry, s.entry? name = some entry ∧ entry.seed = seed)
      s (s.call c) := by
  cases c with
  | add store name seed => exact add_registers s store (.inl ⟨rfl, rfl⟩)
  | discover store timestamp => exact discover_registers (fun _ => .inl rfl) s store
  | refresh store name =>
    exact refresh_registers s store name fun entry found => .inr ⟨entry, found, rfl⟩

theorem run_registers (s : Schema) (calls : List Call) :
    Registers (fun _ _ => True) s (s.run calls) := by
  induction calls generalizing s with
  | nil => exact .none
  | cons c rest ih => exact (call_registers s c).weaken.trans (ih (s.call c))

/-- The definitions after the first are added to the schema that the first leaves. -/
theorem addDefinitions_cons (s : Schema) (store : Store) (d : TableDefinition)
    (rest : List TableDefinition) :
    s.addDefinitions store (d :: rest) =
      (s.add store d.dataSource d.seed).2.bind fun _ =>
        addDefinitions (s.add store d.dataSource d.seed).1 store rest :=
  rfl

theorem addDefinitions_registers {allowed : String → TableSeed → Prop} (s : Schema)
    (store : Store) {definitions : List TableDefinition} {last : Schema}
    (given : ∀ d ∈ definitions, allowed d.dataSource d.seed)
    (added : (s.addDefinitions store definitions).result = .ok last) :
    Registers allowed s last := by
  induction definitions generalizing s with
  | nil =>
    cases added
    exact .none
  | cons d rest ih =>
    obtain ⟨_, _, others⟩ := Exchange.bind_result_ok added
    have first := add_registers s store (given d List.mem_cons_self)
    refine first.trans (ih _ (fun other member => ?_) others)
    exact given other (List.mem_cons_of_mem _ member)

theorem origin_registers {origin : Origin} {s : Schema} (opened : origin.schema.result = .ok s) :
    ∃ name database, Registers (fun name seed => origin.Hands name seed) (new name database) s := by
  cases origin with
  | new name database =>
    cases opened
    exact ⟨name, database, .none⟩
  | ofCatalog catalog database store =>
    refine ⟨catalog.name, database, ?_⟩
    simp only [Origin.schema, Schema.ofCatalog] at opened
    split at opened
    · cases opened
    · exact addDefinitions_registers _ store (fun d member => ⟨d, member, rfl, rfl⟩) opened

end Schema

/-- A server with a table of sales, whose engine sums a metric that is no column. -/
def Store.sales : Store where
  names := .ok ["sales"]
  engine := fun _ =>
    .ok (some ⟨"SummingMergeTree", "SummingMergeTree((amount, ghost)) ORDER BY ts"⟩)
  columns := fun _ => .ok [⟨"ts", "DateTime", true⟩, ⟨"amount", "Nullable(UInt64)", false⟩,
    ⟨"buyers", "AggregateFunction(uniq, String)", false⟩]
  bounds := fun _ _ => .ok ⟨3, 0, 86400000⟩

/-- A seed with another type for the amount, and with a metric that the server does not have. -/
def TableSeed.sales : TableSeed :=
  ⟨⟨NameMap.empty.insert "amount" .varchar, NameSet.ofNames ["margin"], none⟩, some "ts", true⟩

/-- The server of sales, which lists tables of some names; it does not know the ghost. -/
def Store.listing (names : List String) : Store :=
  { Store.sales with
    names := .ok names
    engine := fun name => if name = "ghost" then .ok none else Store.sales.engine name }

def Schema.shop : Schema :=
  ((new "shop" (some "db")).add .sales "sales" .sales).1

end SeriesCatalog
