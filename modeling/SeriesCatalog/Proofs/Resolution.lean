import SeriesCatalog.Proofs.Building
import SeriesCatalog.Proofs.Calls
import SeriesCatalog.Proofs.RowType

/-! # Row types of discovered tables

A source infers metrics only among the columns that it reports, and all of these become columns of
the table. So a discovered table can lack nothing but what its seed names.
-/

namespace SeriesCatalog

/-- The column is in the seed or among those that the store reports. -/
def TableSeed.Knows (seed : TableSeed) (columns : List ReportedColumn) (column : String) : Prop :=
  column ∈ seed.metadata.columns.keys ∨ Reports columns column

theorem Source.Success.reported {dataSource timestamp : String}
    {metadata completed : TableMetadata} {source : Source}
    (done : source.Success dataSource timestamp metadata completed) :
    ∃ columns, source.store.columns dataSource = .ok columns ∧
      (∀ column, column ∈ completed.columns.keys ↔
        column ∈ metadata.columns.keys ∨ Reports columns column) ∧
      ∀ metric ∈ completed.metrics.toList,
        metric ∈ metadata.metrics.toList ∨ Reports columns metric := by
  obtain ⟨row, columns, described, same⟩ := done.describes
  rw [same]
  refine ⟨columns, described.columns, fun column => ?_, fun metric member => ?_⟩
  · exact @TableMetadata.mem_merge_columns metadata (.parse row.engine row.full) columns timestamp
      column
  · exact (TableMetadata.mem_merge_metrics.1 member).imp_right classifyMetrics_reported

namespace Schema

/-- The columns of a discovered table are those that its seed and the store know, and so are the
metrics that its seed does not name. -/
theorem add_discovered {s : Schema} {database : String} (source : s.database = some database)
    {store : Store} {name : String} {seed : TableSeed} (asks : seed.discover = true)
    {entry : Entry} (added : (s.add store name seed).2.result = .ok entry) :
    entry.table.dataSource = name ∧
      entry.table.timestamp = seed.timestamp.getD "__time" ∧
      ∃ columns, store.columns name = .ok columns ∧
        (∀ column, column ∈ entry.table.columns.keys ↔ seed.Knows columns column) ∧
        (∀ metric ∈ seed.metadata.metrics.toList, metric ∈ entry.table.metrics.toList) ∧
        ∀ metric ∈ entry.table.metrics.toList,
          metric ∈ seed.metadata.metrics.toList ∨ Reports columns metric := by
  obtain ⟨table, built, rfl⟩ := add_ok added
  obtain ⟨completed, completion, -, -, rfl⟩ := build_completed built
  have chosen : s.asked store seed = some ⟨database, store⟩ := by
    rw [asked, if_pos asks, source_eq source]
  rw [chosen] at completion
  obtain ⟨columns, found, known, metrics⟩ := Source.Success.reported completion
  exact ⟨rfl, rfl, columns, found, known, fun _ => completion.keeps_metric, metrics⟩

/-- A discovered table resolves exactly when its timestamp and the metrics of its seed are seeded or
reported columns. Otherwise the error names the timestamp, if that is missing, or else the least
missing metric, which is one of the seed. -/
theorem discovered_rowType_iff {s : Schema} {database : String}
    (source : s.database = some database) {store : Store} {name : String} {seed : TableSeed}
    (asks : seed.discover = true) {entry : Entry}
    (added : (s.add store name seed).2.result = .ok entry) :
    ∃ columns, store.columns name = .ok columns ∧
      entry.table.timestamp = seed.timestamp.getD "__time" ∧
      ((∃ row, entry.table.rowType .permissive = .ok row) ↔
        seed.Knows columns entry.table.timestamp ∧
          ∀ metric ∈ seed.metadata.metrics.toList, seed.Knows columns metric) ∧
      ∀ e, entry.table.rowType .permissive = .error e →
        (¬ seed.Knows columns entry.table.timestamp ∧
          e = .timestampMissing name entry.table.timestamp) ∨
        (seed.Knows columns entry.table.timestamp ∧
          ∃ metric ∈ seed.metadata.metrics.toList, e = .metricMissing name metric ∧
            ¬ seed.Knows columns metric ∧
            ∀ other ∈ entry.table.metrics.toList, ¬ seed.Knows columns other → metric ≤ other) := by
  obtain ⟨named, timed, columns, found, known, kept, metrics⟩ := add_discovered source asks added
  refine ⟨columns, found, timed, ?_, ?_⟩
  · constructor
    · rintro ⟨row, resolved⟩
      obtain ⟨⟨timestamp, each⟩, -⟩ := Table.rowType_ok_iff.1 resolved
      refine ⟨(known _).1 timestamp, fun metric member => ?_⟩
      exact (known metric).1 (each metric (kept metric member))
    · rintro ⟨timestamp, each⟩
      refine ⟨_, Table.rowType_ok_iff.2 ⟨⟨(known _).2 timestamp, fun metric member => ?_⟩, rfl⟩⟩
      rcases metrics metric member with seeded | reported
      · exact (known metric).2 (each metric seeded)
      · exact (known metric).2 (.inr reported)
  · intro e failed
    rcases Table.rowType_error failed with
      ⟨missing, rfl⟩ | ⟨present, metric, member, rfl, missing, least⟩
    · exact .inl ⟨fun knows => missing ((known _).2 knows), named ▸ rfl⟩
    · have unknown : ¬ seed.Knows columns metric := fun knows => missing ((known _).2 knows)
      -- An inferred metric is reported, so the missing one comes from the seed.
      have seeded : metric ∈ seed.metadata.metrics.toList :=
        (metrics metric member).resolve_right fun reported => unknown (.inr reported)
      refine .inr ⟨(known _).1 present, metric, seeded, named ▸ rfl, unknown, ?_⟩
      intro other otherMember otherUnknown
      exact least other otherMember fun column => otherUnknown ((known other).1 column)

theorem sales_resolves_iff :
    ∃ entry columns, ((new "shop" (some "db")).add .sales "sales" .sales).2.result = .ok entry ∧
      Store.sales.columns "sales" = .ok columns ∧
      ((∃ row, entry.table.rowType .permissive = .ok row) ↔
        TableSeed.sales.Knows columns entry.table.timestamp ∧
          ∀ metric ∈ TableSeed.sales.metadata.metrics.toList,
            TableSeed.sales.Knows columns metric) := by
  obtain ⟨entry, added, -⟩ := Outcome.exists_ok_of_any
    (x := ((new "shop" (some "db")).add .sales "sales" .sales).2.result) (p := fun _ => true)
    (by decide +kernel)
  have source : (new "shop" (some "db")).database = some "db" := rfl
  obtain ⟨columns, found, -, resolves, -⟩ := discovered_rowType_iff source rfl added
  exact ⟨entry, columns, added, found, resolves⟩

end Schema

end SeriesCatalog
