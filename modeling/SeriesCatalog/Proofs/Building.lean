import SeriesCatalog.Schema
import SeriesCatalog.Proofs.Discovery

/-! # Tables built from seeds

A table is built from a seed and, if the seed asks for it, from the store as it is at that time. Of
the schema only the name and the database have a part in it, so what is built does not depend on
anything that the schema has seen before.
-/

namespace SeriesCatalog

open ClickHouse

/-- The intervals of the table are the declared ones, or else the one that the source observes, or
else the default one. A table whose seed asks no source has nothing observed. -/
structure Table.Spans (t : Table) (given : Option (List Interval)) (asked : Option Source) :
    Prop where
  declared : ∀ intervals, given = some intervals → t.intervals = intervals
  observed : given = none → ∀ source bounds, asked = some source →
    source.Observes t.dataSource t.timestamp bounds →
    ∃ i, observedInterval bounds.rows bounds.min bounds.max = .ok (some i) ∧ t.intervals = [i]
  fallback : given = none →
    (∀ source bounds, asked = some source → ¬ source.Observes t.dataSource t.timestamp bounds) →
    t.intervals = [Interval.default]

theorem Table.Spans.nonempty {t : Table} {given : Option (List Interval)} {asked : Option Source}
    (spans : t.Spans given asked) (listed : given ≠ some []) : t.intervals ≠ [] := by
  cases known : given with
  | some intervals =>
    rw [spans.declared intervals known]
    rintro rfl
    exact listed known
  | none =>
    by_cases seen : ∃ source bounds,
        asked = some source ∧ source.Observes t.dataSource t.timestamp bounds
    · obtain ⟨source, bounds, asks, observes⟩ := seen
      obtain ⟨i, -, added⟩ := spans.observed known source bounds asks observes
      rw [added]
      exact List.cons_ne_nil _ _
    · rw [spans.fallback known fun source bounds asks observes =>
        seen ⟨source, bounds, asks, observes⟩]
      exact List.cons_ne_nil _ _

namespace TableMetadata.CompletedBy

variable {m completed : TableMetadata} {asked : Option Source} {dataSource timestamp : String}

theorem observed {source : Source}
    (done : m.CompletedBy (some source) dataSource timestamp completed)
    (unknown : m.intervals = Option.none) {bounds : BoundsRow}
    (seen : source.Observes dataSource timestamp bounds) :
    ∃ i, observedInterval bounds.rows bounds.min bounds.max = .ok (some i) ∧
      completed.intervals = some [i] :=
  Source.Success.observed done unknown seen

theorem unobserved (done : m.CompletedBy asked dataSource timestamp completed)
    (unknown : m.intervals = Option.none)
    (unseen : ∀ source bounds, asked = some source →
      ¬ source.Observes dataSource timestamp bounds) :
    completed.intervals = Option.none := by
  cases asked with
  | none =>
    cases done
    exact unknown
  | some source => exact Source.Success.unobserved done unknown fun bounds => unseen _ bounds rfl

/-- Of the intervals that a table gets, only given ones can be in another calendar than UTC. -/
theorem find?_foreign (done : m.CompletedBy asked dataSource timestamp completed) :
    ((completed.intervals.getD [Interval.default]).find? fun i => !i.isCanonical) =
      (m.intervals.getD []).find? fun i => !i.isCanonical := by
  cases known : m.intervals with
  | some given =>
    rw [done.keeps_intervals known]
    rfl
  | none =>
    have canonical : ∀ i ∈ completed.intervals.getD [Interval.default], i.isCanonical = true := by
      intro i member
      cases added : completed.intervals with
      | none =>
        rw [added] at member
        rw [List.mem_singleton.1 member]
        rfl
      | some intervals =>
        rw [added] at member
        cases asked with
        | none =>
          cases done
          rw [known] at added
          cases added
        | some source => exact Source.Success.canonical done known added member
    refine List.find?_eq_none.2 fun i member => ?_
    simp only [canonical i member, Bool.not_true, Bool.false_eq_true, not_false_eq_true]

end TableMetadata.CompletedBy

namespace Table

theorem create_error_iff {owner dataSource : String} {columns : NameMap ScalarType}
    {metrics : NameSet} {timestamp : Option String} {intervals : Option (List Interval)}
    {e : CatalogError} :
    create (some owner) dataSource columns metrics timestamp intervals = .error e ↔
      (dataSource = "" ∧ e = .unnamed) ∨
        (dataSource ≠ "" ∧ ∃ i,
          ((intervals.getD [Interval.default]).find? fun i => !i.isCanonical) = some i ∧
            e = .notCanonical i dataSource) := by
  unfold create
  simp only
  split
  · rename_i unnamed
    simp [String.isEmpty_iff.1 unnamed, eq_comm]
  · rename_i named
    have named : dataSource ≠ "" := fun empty => named (String.isEmpty_iff.2 empty)
    split
    · rename_i i found
      simp [named, found, eq_comm]
    · rename_i absent
      simp [named, absent]

theorem create_owner (owner other : String) (dataSource : String) (columns : NameMap ScalarType)
    (metrics : NameSet) (timestamp : Option String) (intervals : Option (List Interval)) :
    create (some owner) dataSource columns metrics timestamp intervals =
      (create (some other) dataSource columns metrics timestamp intervals).map
        fun t => { t with owner := owner } := by
  unfold create
  simp only
  split
  · rfl
  · split <;> rfl

end Table

namespace Schema

def asked (s : Schema) (store : Store) (seed : TableSeed) : Option Source :=
  if seed.discover then s.source store else none

variable {s : Schema} {store : Store} {name : String} {seed : TableSeed}

theorem source_eq {database : String} (sourced : s.database = some database) (store : Store) :
    s.source store = some ⟨database, store⟩ := by
  rw [source, sourced, Option.map_some]

theorem build_completed {t : Table} (built : (s.build store name seed).result = .ok t) :
    ∃ completed,
      seed.metadata.CompletedBy (s.asked store seed) name (seed.timestamp.getD "__time")
        completed ∧
      name ≠ "" ∧
      (∀ i ∈ completed.intervals.getD [Interval.default], i.isCanonical = true) ∧
      t = ⟨s.name, name, completed.columns, completed.metrics, seed.timestamp.getD "__time",
        completed.intervals.getD [Interval.default]⟩ := by
  obtain ⟨completed, done, created⟩ := Table.createDiscovered_ok built
  exact ⟨completed, done, Table.create_ok_iff.1 created⟩

theorem build_spans {t : Table} (built : (s.build store name seed).result = .ok t) :
    t.Spans seed.metadata.intervals (s.asked store seed) := by
  obtain ⟨completed, done, -, -, rfl⟩ := build_completed built
  refine ⟨?_, ?_, ?_⟩
  · intro given known
    simp only [done.keeps_intervals known, Option.getD_some]
  · intro unknown source bounds asks seen
    rw [asks] at done
    obtain ⟨i, made, added⟩ := done.observed unknown seen
    exact ⟨i, made, by simp only [added, Option.getD_some]⟩
  · intro unknown unseen
    simp only [done.unobserved unknown unseen, Option.getD_none]

/-- Why no table is built from a seed. -/
inductive BuildFailure (s : Schema) (store : Store) (name : String) (seed : TableSeed) :
    CatalogError → Prop where
  /-- The source fails to complete the metadata of the seed. -/
  | source {source : Source} {e : MetadataError} :
      s.asked store seed = some source →
      source.Failure name (seed.timestamp.getD "__time") seed.metadata e →
      BuildFailure s store name seed (.metadata e)
  | unnamed {completed : TableMetadata} :
      seed.metadata.CompletedBy (s.asked store seed) name (seed.timestamp.getD "__time")
        completed → name = "" →
      BuildFailure s store name seed .unnamed
  /-- The seed has an interval in another calendar than UTC; the first of them is reported. -/
  | notCanonical {completed : TableMetadata} {given : List Interval} {i : Interval} :
      seed.metadata.CompletedBy (s.asked store seed) name (seed.timestamp.getD "__time")
        completed → name ≠ "" →
      seed.metadata.intervals = some given → (given.find? fun i => !i.isCanonical) = some i →
      BuildFailure s store name seed (.notCanonical i name)

theorem BuildFailure.result {e : CatalogError} (failed : BuildFailure s store name seed e) :
    (s.build store name seed).result = .error e := by
  cases failed with
  | @source source _ asks failed =>
    have chosen : (if seed.discover then s.source store else none) = some source := asks
    unfold build
    rw [chosen]
    exact Table.createDiscovered_failed _ failed
  | unnamed done unnamed =>
    refine (Table.createDiscovered_completed _ done).trans ?_
    exact Table.create_error_iff.2 (.inl ⟨unnamed, rfl⟩)
  | @notCanonical _ given i done named known foreign =>
    refine (Table.createDiscovered_completed _ done).trans ?_
    refine Table.create_error_iff.2 (.inr ⟨named, i, ?_, rfl⟩)
    rw [done.find?_foreign, known]
    exact foreign

theorem build_error_iff {e : CatalogError} :
    (s.build store name seed).result = .error e ↔ BuildFailure s store name seed e := by
  refine ⟨fun failed => ?_, BuildFailure.result⟩
  rcases Table.failed_or_completed (s.asked store seed) name (seed.timestamp.getD "__time")
    seed.metadata with ⟨source, reason, asks, failure⟩ | ⟨completed, done⟩
  · have failure : BuildFailure s store name seed (.metadata reason) := .source asks failure
    rw [failure.result] at failed
    cases failed
    exact failure
  · have created := (Table.createDiscovered_completed (some s.name) done).symm.trans failed
    rcases Table.create_error_iff.1 created with ⟨unnamed, rfl⟩ | ⟨named, i, foreign, rfl⟩
    · exact .unnamed done unnamed
    · rw [done.find?_foreign] at foreign
      cases known : seed.metadata.intervals with
      | none =>
        rw [known] at foreign
        cases foreign
      | some given =>
        rw [known] at foreign
        exact .notCanonical done named known foreign

theorem build_congr {other : Schema} (title : s.name = other.name)
    (database : s.database = other.database) :
    s.build store name seed = other.build store name seed := by
  unfold build source
  rw [title, database]

/-- Two schemas over one database build the same table, but for the name of its schema. -/
theorem build_elsewhere {other : Schema} (database : s.database = other.database) :
    (s.build store name seed).result =
      (other.build store name seed).result.map fun t => { t with owner := s.name } := by
  unfold build source
  rw [database]
  generalize (if seed.discover then other.database.map (Source.mk · store) else none) = asked
  rcases Table.failed_or_completed asked name (seed.timestamp.getD "__time") seed.metadata with
    ⟨source, e, rfl, failed⟩ | ⟨completed, done⟩
  · rw [Table.createDiscovered_failed _ failed, Table.createDiscovered_failed _ failed]
    rfl
  · rw [Table.createDiscovered_completed _ done, Table.createDiscovered_completed _ done]
    exact Table.create_owner _ _ _ _ _ _ _

/-- All that the table has comes from its seed or from the answers of the source that is asked. -/
structure DrawsOn (t : Table) (seed : TableSeed) (asked : Option Source) : Prop where
  columns : ∀ column type, t.columns.get? column = some type →
    seed.metadata.columns.get? column = some type ∨
      ∃ source columns reported, asked = some source ∧
        source.store.columns t.dataSource = .ok columns ∧ reported ∈ columns ∧
        reported.name = column ∧ scalarType reported.type = type
  metrics : ∀ metric ∈ t.metrics.toList,
    metric ∈ seed.metadata.metrics.toList ∨
      ∃ source row columns, asked = some source ∧
        source.store.engine t.dataSource = .ok (some row) ∧
        source.store.columns t.dataSource = .ok columns ∧
        metric ∈ (classifyMetrics (TableEngine.parse row.engine row.full) columns
          t.timestamp).toList
  intervals : t.Spans seed.metadata.intervals asked

theorem build_drawsOn {t : Table} (built : (s.build store name seed).result = .ok t) :
    DrawsOn t seed (s.asked store seed) := by
  obtain ⟨completed, done, -, -, made⟩ := build_completed built
  have spans := build_spans built
  subst made
  cases asks : s.asked store seed with
  | none =>
    rw [asks] at done spans
    cases done
    exact ⟨fun _ _ known => .inl known, fun _ known => .inl known, spans⟩
  | some source =>
    rw [asks] at done spans
    obtain ⟨row, columns, described, same⟩ := Source.Success.describes done
    refine ⟨fun column type known => ?_, fun metric member => ?_, spans⟩
    · rw [same] at known
      dsimp only at known
      rcases TableMetadata.merge_draws_column known with seeded | ⟨reported, member, named, typed⟩
      · exact .inl seeded
      · exact .inr ⟨source, columns, reported, rfl, described.columns, member, named, typed⟩
    · dsimp only at member
      rw [same] at member
      rcases TableMetadata.mem_merge_metrics.1 member with seeded | inferred
      · exact .inl seeded
      · exact .inr ⟨source, row, columns, rfl, described.engine, described.columns, inferred⟩

theorem build_queries (s : Schema) (store : Store) (name : String) (seed : TableSeed) :
    (s.build store name seed).queries <+:
      ((s.asked store seed).map
        (·.plannedQueries name (seed.timestamp.getD "__time"))).getD [] := by
  unfold build asked
  cases (if seed.discover then s.source store else none) with
  | none => exact List.prefix_refl _
  | some source =>
    have asks := source.complete_queries name (seed.timestamp.getD "__time") seed.metadata
    unfold Table.createDiscovered Exchange.bind
    dsimp only
    split
    · rw [List.append_nil]
      exact asks
    · exact asks

end Schema

end SeriesCatalog
