import SeriesCatalog.Proofs.Documents
import SeriesCatalog.Proofs.Faults
import SeriesCatalog.Proofs.Resolution

/-! # Valid catalogs resolve

A catalog is checked before any table is made, and a table is checked again when its row type is
resolved. For tables that are not discovered the two checks accept the same definitions.
-/

namespace SeriesCatalog

open Catalog

theorem Text.ne_empty_of_visible {name : String} (visible : isAllBlank name = false) :
    name ≠ "" := by
  rintro rfl
  cases visible

namespace TableDefinition

/-- The table that the definition stands for if it is not discovered. -/
def table (d : TableDefinition) (owner : String) : Table :=
  ⟨owner, d.dataSource, d.columns, NameSet.ofNames d.metrics, d.timestamp.getD "__time",
    if d.intervals = [] then [Interval.default] else d.intervals⟩

end TableDefinition

namespace Catalog

/-- Without blank or repeated names, what is wrong with a catalog is wrong with the columns of one
of its definitions. -/
theorem exists_undeclared {c : Catalog} (named : Text.isAllBlank c.name = false)
    (visible : ∀ d ∈ c.tables, Text.isAllBlank d.dataSource = false)
    (distinct : (c.tables.map (·.dataSource)).Nodup) (invalid : c.validate ≠ .ok ()) :
    ∃ d ∈ c.tables, ¬ d.Declares := by
  apply Classical.byContradiction
  intro none
  have declares : ∀ d ∈ c.tables, d.Declares := by
    intro d member
    apply Classical.byContradiction
    intro undeclared
    exact none ⟨d, member, undeclared⟩
  exact invalid (validate_ok_iff.2
    ⟨named, distinct, fun d member => ⟨visible d member, fun _ => declares d member⟩⟩)

end Catalog

namespace Schema

/-- A definition that is not discovered gives its table without a query, provided that it has a name
and is in UTC. -/
theorem build_declared {d : TableDefinition} (declared : d.discover = false)
    (named : d.dataSource ≠ "") (canonical : d.Canonical) (s : Schema) (store : Store) :
    s.build store d.dataSource d.seed = ⟨[], .ok (d.table s.name)⟩ := by
  have created : Table.create (some s.name) d.dataSource d.columns (NameSet.ofNames d.metrics)
      d.timestamp d.seed.metadata.intervals = .ok (d.table s.name) := by
    refine Table.create_ok_iff.2 ⟨named, ?_, ?_⟩
    · intro i member
      cases none : d.intervals with
      | nil =>
        simp [TableDefinition.seed, none] at member
        exact member ▸ rfl
      | cons first rest =>
        simp only [TableDefinition.seed, none, List.isEmpty_cons] at member
        exact canonical i (none ▸ member)
    · cases none : d.intervals <;>
        simp [TableDefinition.table, TableDefinition.seed, none, defaultTimestamp]
  have unasked : d.seed.discover = false := declared
  unfold build
  rw [unasked]
  simp only [Bool.false_eq_true, if_false]
  unfold Table.createDiscovered
  exact congrArg (Exchange.mk []) created

def declare (s : Schema) (d : TableDefinition) : Schema :=
  (s.register d.dataSource d.seed (d.table s.name)).1

/-- The schema with the tables of several definitions. -/
def declareAll (s : Schema) (definitions : List TableDefinition) : Schema :=
  definitions.foldl declare s

theorem addDefinitions_declared {definitions : List TableDefinition} (s : Schema) (store : Store)
    (declared : ∀ d ∈ definitions, d.discover = false ∧ d.dataSource ≠ "" ∧ d.Canonical) :
    s.addDefinitions store definitions = ⟨[], .ok (s.declareAll definitions)⟩ := by
  induction definitions generalizing s with
  | nil => rfl
  | cons d rest ih =>
    obtain ⟨⟨unasked, named, canonical⟩, others⟩ := List.forall_mem_cons.1 declared
    have added : s.add store d.dataSource d.seed =
        (s.declare d, ⟨[], .ok (s.register d.dataSource d.seed (d.table s.name)).2⟩) := by
      rw [add_eq, build_declared unasked named canonical]
      rfl
    unfold addDefinitions
    rw [added]
    simp only [Exchange.bind, ih _ others]
    rfl

@[simp] theorem declareAll_name (s : Schema) (definitions : List TableDefinition) :
    (s.declareAll definitions).name = s.name := by
  induction definitions generalizing s with
  | nil => rfl
  | cons d rest ih => exact ih (s.declare d)

theorem declareAll_registrations (s : Schema) (definitions : List TableDefinition) :
    (s.declareAll definitions).registrations = s.registrations + definitions.length := by
  induction definitions generalizing s with
  | nil => rfl
  | cons d rest ih =>
    have step : (s.declareAll (d :: rest)).registrations = s.registrations + 1 + rest.length :=
      ih (s.declare d)
    rw [step, List.length_cons]
    omega

theorem entry?_declareAll_other {name : String} (s : Schema) {definitions : List TableDefinition}
    (other : name ∉ definitions.map (·.dataSource)) :
    entry? (s.declareAll definitions) name = s.entry? name := by
  induction definitions generalizing s with
  | nil => rfl
  | cons d rest ih =>
    rw [List.map_cons, List.mem_cons, not_or] at other
    obtain ⟨different, absent⟩ := other
    have step : entry? (s.declareAll (d :: rest)) name = entry? (s.declare d) name :=
      ih (s.declare d) absent
    rw [step, declare, entry?_register, if_neg different]

theorem entry?_declareAll (s : Schema) {definitions : List TableDefinition}
    (distinct : (definitions.map (·.dataSource)).Nodup) :
    ∀ d ∈ definitions, ∃ serial,
      entry? (s.declareAll definitions) d.dataSource = some ⟨d.seed, d.table s.name, serial⟩ := by
  induction definitions generalizing s with
  | nil => simp
  | cons first rest ih =>
    obtain ⟨absent, distinct⟩ := List.nodup_cons.1 distinct
    intro d member
    rcases List.mem_cons.1 member with rfl | later
    · refine ⟨s.registrations, ?_⟩
      have step : entry? (s.declareAll (d :: rest)) d.dataSource =
          entry? (s.declare d) d.dataSource := entry?_declareAll_other _ absent
      rw [step, declare, entry?_register, if_pos rfl]
    · exact ih (s.declare first) distinct d later

theorem tableNames_declareAll (s : Schema) {definitions : List TableDefinition}
    (distinct : (definitions.map (·.dataSource)).Nodup)
    (fresh : ∀ d ∈ definitions, d.dataSource ∉ s.tableNames) :
    (s.declareAll definitions).tableNames.Perm
      (definitions.map (·.dataSource) ++ s.tableNames) := by
  induction definitions generalizing s with
  | nil => exact .refl _
  | cons d rest ih =>
    obtain ⟨absent, distinct⟩ := List.nodup_cons.1 distinct
    obtain ⟨new, others⟩ := List.forall_mem_cons.1 fresh
    have step : (s.declare d).tableNames.Perm (d.dataSource :: s.tableNames) :=
      NameMap.keys_insert_perm _ new
    -- No two definitions share a name, so the later names are still fresh.
    have still : ∀ other ∈ rest, other.dataSource ∉ (s.declare d).tableNames := by
      intro other member known
      rcases List.mem_cons.1 (step.mem_iff.1 known) with same | known
      · exact absent (List.mem_map.2 ⟨other, member, same⟩)
      · exact others other member known
    refine (ih (s.declare d) distinct still).trans ?_
    exact (step.append_left _).trans List.perm_middle

/-- A valid catalog gives a schema of its definitions, whose tables all resolve to what they
declare. -/
theorem ofCatalog_valid {c : Catalog} (canonical : ∀ d ∈ c.tables, d.Canonical)
    (declared : ∀ d ∈ c.tables, d.discover = false) (valid : c.validate = .ok ())
    (database : Option String) (store : Store) :
    ofCatalog c database store = ⟨[], .ok ((new c.name database).declareAll c.tables)⟩ := by
  obtain ⟨-, -, sound⟩ := validate_ok_iff.1 valid
  have named : ∀ d ∈ c.tables, d.dataSource ≠ "" := fun d member =>
    Text.ne_empty_of_visible (sound d member).1
  simp only [ofCatalog, valid]
  exact addDefinitions_declared _ store
    fun d member => ⟨declared d member, named d member, canonical d member⟩

theorem tableHandle_declareAll {s : Schema} {definitions : List TableDefinition}
    (distinct : (definitions.map (·.dataSource)).Nodup) {d : TableDefinition}
    (member : d ∈ definitions) (declares : d.Declares) :
    (s.declareAll definitions).tableHandle d.dataSource .permissive =
      .ok ⟨[s.name, d.dataSource], RowType.ofColumns d.columns⟩ := by
  obtain ⟨serial, found⟩ := entry?_declareAll s distinct d member
  have resolved : (d.table s.name).rowType .permissive = .ok (.ofColumns d.columns) := by
    refine Table.rowType_ok_iff.2 ⟨⟨declares.1, fun metric metricMember => ?_⟩, rfl⟩
    exact declares.2 metric (NameSet.mem_ofNames.1 metricMember)
  simp only [tableHandle, found, resolved, declareAll_name]
  rfl

/-- No schema resolves the table of a definition that makes the catalog invalid. -/
theorem add_unresolved {c : Catalog} (canonical : ∀ d ∈ c.tables, d.Canonical)
    (declared : ∀ d ∈ c.tables, d.discover = false) (named : Text.isAllBlank c.name = false)
    (visible : ∀ d ∈ c.tables, Text.isAllBlank d.dataSource = false)
    (distinct : (c.tables.map (·.dataSource)).Nodup) (invalid : c.validate ≠ .ok ()) :
    ∃ d ∈ c.tables, ∀ (s : Schema) (store : Store), ∃ entry e,
      (s.add store d.dataSource d.seed).2.result = .ok entry ∧
        entry.table.rowType .permissive = .error e ∧
        (e = .timestampMissing d.dataSource (d.timestamp.getD "__time") ∨
          ∃ metric ∈ d.metrics, e = .metricMissing d.dataSource metric) := by
  obtain ⟨d, member, undeclared⟩ := Catalog.exists_undeclared named visible distinct invalid
  refine ⟨d, member, fun s store => ?_⟩
  have nonempty := Text.ne_empty_of_visible (visible d member)
  have built := build_declared (declared d member) nonempty (canonical d member) s store
  cases resolved : (d.table s.name).rowType .permissive with
  | ok row =>
    obtain ⟨⟨timestamp, metrics⟩, -⟩ := Table.rowType_ok_iff.1 resolved
    exact absurd ⟨timestamp, fun metric metricMember =>
      metrics metric (NameSet.mem_ofNames.2 metricMember)⟩ undeclared
  | error e =>
    refine ⟨⟨d.seed, d.table s.name, s.registrations⟩, e, ?_, resolved, ?_⟩
    · rw [add_eq, built]
      rfl
    · rcases Table.rowType_error resolved with ⟨-, same⟩ | ⟨-, metric, metricMember, same, -⟩
      · exact .inl same
      · exact .inr ⟨metric, NameSet.mem_ofNames.1 metricMember, same⟩

/-- For a catalog that was read and discovers nothing, the check of the catalog and the checks of
its tables agree. -/
theorem validate_agrees_with_resolution {c : Catalog} (read : c.IsRead)
    (declared : ∀ d ∈ c.tables, d.discover = false) :
    (c.validate = .ok () →
      ∀ (database : Option String) (store : Store), ∃ s,
        ofCatalog c database store = ⟨[], .ok s⟩ ∧
          (c.tables.map (·.dataSource)).Nodup ∧
          s.tableNames.Perm (c.tables.map (·.dataSource)) ∧
          s.registrations = c.tables.length ∧
          ∀ d ∈ c.tables, ∃ entry, s.entry? d.dataSource = some entry ∧
            (∀ metric, metric ∈ entry.table.metrics.toList ↔ metric ∈ d.metrics) ∧
            entry.table.timestamp = d.timestamp.getD "__time" ∧
            entry.table.intervals =
              (if d.intervals = [] then [Interval.default] else d.intervals) ∧
            s.tableHandle d.dataSource .permissive =
              .ok ⟨[c.name, d.dataSource], RowType.ofColumns d.columns⟩) ∧
    (Text.isAllBlank c.name = false →
      (∀ d ∈ c.tables, Text.isAllBlank d.dataSource = false) →
      (c.tables.map (·.dataSource)).Nodup → c.validate ≠ .ok () →
      ∃ d ∈ c.tables, ∀ (s : Schema) (store : Store), ∃ entry e,
        (s.add store d.dataSource d.seed).2.result = .ok entry ∧
          entry.table.rowType .permissive = .error e ∧
          (e = .timestampMissing d.dataSource (d.timestamp.getD "__time") ∨
            ∃ metric ∈ d.metrics, e = .metricMissing d.dataSource metric)) := by
  constructor
  · intro valid database store
    obtain ⟨-, distinct, sound⟩ := validate_ok_iff.1 valid
    refine ⟨_, ofCatalog_valid read.canonical declared valid database store, distinct, ?_, ?_, ?_⟩
    · simpa [tableNames, new] using
        tableNames_declareAll (new c.name database) distinct (by simp [tableNames, new])
    · rw [declareAll_registrations]
      exact Nat.zero_add _
    · intro d member
      obtain ⟨serial, found⟩ := entry?_declareAll (new c.name database) distinct d member
      have declares := (sound d member).2 (declared d member)
      exact ⟨_, found, fun _ => NameSet.mem_ofNames, rfl, rfl,
        tableHandle_declareAll distinct member declares⟩
  · exact add_unresolved read.canonical declared

/-- A document with two tables, of which the second relies on the defaults. -/
def shopDocument : Json :=
  .object [("name", .string "shop"), ("tables", .array [
    .object [("data_source", .string "sales"), ("timestamp_column", .string "ts"),
      ("metrics", .array [.string "amount", .string "amount"]),
      ("columns", .object [("ts", .string "timestamp"), ("amount", .string "bigint")]),
      ("intervals", .array [.string "2024-01-01/2024-02-29"])],
    .object [("data_source", .string "visits"),
      ("columns", .object [("__time", .string "timestamp")])]])]

theorem shop_agrees :
    ∃ c s, Catalog.ofJson shopDocument = .ok c ∧ c.validate = .ok () ∧
      ofCatalog c (some "db") (.failing .unreachable) = ⟨[], .ok s⟩ ∧
      s.tableNames.Perm (c.tables.map (·.dataSource)) := by
  obtain ⟨c, opened, passed⟩ := Outcome.exists_ok_of_any (x := Catalog.ofJson shopDocument)
    (p := fun c => c.validate.toOption.any (fun _ => true) && c.tables.all (!·.discover))
    (by decide +kernel)
  rw [Bool.and_eq_true, List.all_eq_true] at passed
  obtain ⟨⟨⟩, valid, -⟩ := Outcome.exists_ok_of_any passed.1
  have declared : ∀ d ∈ c.tables, d.discover = false := fun d member => by
    simpa using passed.2 d member
  have agrees := validate_agrees_with_resolution (.inl ⟨_, opened⟩) declared
  obtain ⟨s, made, -, names, -⟩ := agrees.1 valid (some "db") (.failing .unreachable)
  exact ⟨c, s, opened, valid, made, names⟩

end Schema

end SeriesCatalog
