import SeriesCatalog.Proofs.Calls
import SeriesCatalog.Proofs.Discovery
import SeriesCatalog.Proofs.RowType

/-! # What a request for metadata leaves behind

A source changes the metadata that it is given while it is still asking. If it fails before it knows
the columns, the metadata is as it was; if it fails later, the columns and metrics are there and the
intervals are not. A table is made of the metadata as the source left it, so whoever gave the
metadata sees the same columns and metrics as the table.
-/

namespace SeriesCatalog

open ClickHouse

namespace Source

/-- The intervals after a request that succeeds. -/
structure Settles (s : Source) (dataSource timestamp : String) (m after : TableMetadata) :
    Prop where
  declared : ∀ given, m.intervals = some given → after.intervals = some given
  observed : m.intervals = none → ∀ bounds, s.Observes dataSource timestamp bounds →
    ∃ i, observedInterval bounds.rows bounds.min bounds.max = .ok (some i) ∧
      after.intervals = some [i]
  unset : m.intervals = none → (∀ bounds, ¬ s.Observes dataSource timestamp bounds) →
    after.intervals = none

/-- How a request goes: which queries are sent, why it fails, and what is known afterwards. -/
structure Orderly (s : Source) (dataSource timestamp : String) (m after : TableMetadata)
    (request : Exchange MetadataError Unit) : Prop where
  inTurn : request.queries <+: s.plannedQueries dataSource timestamp
  afterEngine : 1 < request.queries.length → ∃ row, s.store.engine dataSource = .ok (some row)
  afterColumns : 2 < request.queries.length → ∃ row columns,
    s.Describes dataSource row columns ∧ m.intervals = none ∧ Reports columns timestamp
  fails : ∀ e, request.result = .error e ↔ s.Failure dataSource timestamp m e
  undescribed : (¬ ∃ row columns, s.Describes dataSource row columns) →
    after = m ∧ ∃ e, request.result = .error e
  described : ∀ row columns, s.Describes dataSource row columns →
    let merged := m.merge (TableEngine.parse row.engine row.full) columns timestamp
    (s.plannedQueries dataSource timestamp).take 2 <+: request.queries ∧
      after.columns = merged.columns ∧ after.metrics = merged.metrics ∧
      ∀ e, request.result = .error e → m.intervals = none ∧ after.intervals = none
  settled : request.result = .ok () → s.Settles dataSource timestamp m after
  allSent : request.result = .ok () → ∀ row columns, s.Describes dataSource row columns →
    m.intervals = none → Reports columns timestamp →
    request.queries = s.plannedQueries dataSource timestamp

variable {s : Source} {dataSource timestamp : String} {m : TableMetadata}

theorem Settles.of_success {after : TableMetadata}
    (done : s.Success dataSource timestamp m after) : s.Settles dataSource timestamp m after where
  declared _ := done.declared
  observed unknown _ := done.observed unknown
  unset := done.unobserved

theorem plannedQueries_eq (s : Source) (dataSource timestamp : String) :
    ∃ engine columns : String,
      s.plannedQueries dataSource timestamp =
        engine :: columns :: (Query.bounds s.database dataSource timestamp).sent?.toList ∧
      (s.engine dataSource).AsksInTurn [engine] ∧
      (s.describe dataSource).AsksInTurn [engine, columns] := by
  refine ⟨_, _, ?_, s.engine_inTurn dataSource, s.describe_inTurn dataSource⟩
  simp only [plannedQueries, List.flatMap_cons, List.flatMap_nil, List.append_nil]
  rfl

theorem describe_unanswered {e : MetadataError} (failed : (s.engine dataSource).result = .error e) :
    (s.describe dataSource).queries = (s.engine dataSource).queries :=
  congrArg Exchange.queries (Exchange.bind_failed failed _)

theorem engine_answered {engine : TableEngine}
    (answered : (s.engine dataSource).result = .ok engine) :
    ∃ row, s.store.engine dataSource = .ok (some row) := by
  rw [engine_result] at answered
  cases found : s.store.engine dataSource with
  | error failure => simp [found] at answered
  | ok row =>
    cases row with
    | none => simp [found] at answered
    | some row => exact ⟨row, rfl⟩

/-- More than one query is sent for a description only if the first was answered. -/
theorem describe_queries (s : Source) (dataSource : String) :
    (s.describe dataSource).queries.length ≤ 2 ∧
      (1 < (s.describe dataSource).queries.length →
        ∃ row, s.store.engine dataSource = .ok (some row)) := by
  obtain ⟨_, _, -, engine, describes⟩ := s.plannedQueries_eq dataSource ""
  refine ⟨describes.isPrefix.length_le, ?_⟩
  intro more
  cases answered : (s.engine dataSource).result with
  | ok found => exact engine_answered answered
  | error e =>
    have one := engine.isPrefix.length_le
    rw [describe_unanswered answered] at more
    simp at one
    omega

theorem describe_fails (unknown : ¬ ∃ row columns, s.Describes dataSource row columns) :
    ∃ e, (s.describe dataSource).result = .error e := by
  rw [describe_result, engine_result, columns_result]
  cases engine : s.store.engine dataSource with
  | error failure => exact ⟨_, rfl⟩
  | ok row =>
    cases row with
    | none => exact ⟨_, rfl⟩
    | some row =>
      cases found : s.store.columns dataSource with
      | error failure => exact ⟨_, rfl⟩
      | ok columns => exact absurd ⟨row, columns, engine, found⟩ unknown

theorem complete_unknown (unknown : ¬ ∃ row columns, s.Describes dataSource row columns) :
    (s.complete dataSource timestamp m).1 = m := by
  obtain ⟨e, failed⟩ := describe_fails unknown
  rw [complete_undescribed failed]

/-- Only the intervals depend on how the request ends. -/
theorem complete_described {row : EngineRow} {columns : List ReportedColumn}
    (described : s.Describes dataSource row columns) :
    let merged := m.merge (TableEngine.parse row.engine row.full) columns timestamp
    (s.complete dataSource timestamp m).1.columns = merged.columns ∧
      (s.complete dataSource timestamp m).1.metrics = merged.metrics := by
  cases wanted : m.needsBounds columns timestamp with
  | false =>
    rw [complete_unbounded described wanted]
    exact ⟨rfl, rfl⟩
  | true =>
    rw [complete_bounded described wanted]
    generalize s.timeBounds dataSource timestamp = bounds
    obtain ⟨queries, result⟩ := bounds
    cases result <;> exact ⟨rfl, rfl⟩

section Described

variable {row : EngineRow} {columns : List ReportedColumn}

theorem complete_bounded_request (described : s.Describes dataSource row columns)
    (wanted : m.needsBounds columns timestamp = true) :
    (s.complete dataSource timestamp m).2.queries =
        (s.describe dataSource).queries ++ (s.timeBounds dataSource timestamp).queries ∧
      (s.complete dataSource timestamp m).2.result =
        (s.timeBounds dataSource timestamp).result.map fun _ => () := by
  rw [complete_bounded described wanted]
  generalize s.timeBounds dataSource timestamp = bounds
  obtain ⟨queries, result⟩ := bounds
  cases result <;> exact ⟨rfl, rfl⟩

theorem complete_failed_late {e : MetadataError} (described : s.Describes dataSource row columns)
    (failed : (s.complete dataSource timestamp m).2.result = .error e) :
    m.intervals = none ∧ (s.complete dataSource timestamp m).1.intervals = none := by
  cases wanted : m.needsBounds columns timestamp with
  | false =>
    rw [complete_unbounded described wanted] at failed
    cases failed
  | true =>
    obtain ⟨unknown, -⟩ := TableMetadata.needsBounds_iff.1 wanted
    refine ⟨unknown, ?_⟩
    rw [complete_bounded described wanted] at failed ⊢
    generalize s.timeBounds dataSource timestamp = bounds at failed ⊢
    obtain ⟨queries, result⟩ := bounds
    cases result with
    | error _ => exact unknown
    | ok _ => cases failed

theorem describe_begins (described : s.Describes dataSource row columns) :
    (s.describe dataSource).queries <+: (s.complete dataSource timestamp m).2.queries := by
  cases wanted : m.needsBounds columns timestamp with
  | false =>
    have same : (s.complete dataSource timestamp m).2.queries =
        (s.describe dataSource).queries := by
      rw [complete_unbounded described wanted]
    exact same ▸ List.prefix_refl _
  | true =>
    rw [(complete_bounded_request described wanted).1]
    exact List.prefix_append _ _

end Described

theorem complete_more_than_description
    (more : 2 < (s.complete dataSource timestamp m).2.queries.length) :
    ∃ row columns, s.Describes dataSource row columns ∧ m.intervals = none ∧
      Reports columns timestamp := by
  have short := (s.describe_queries dataSource).1
  by_cases known : ∃ row columns, s.Describes dataSource row columns
  · obtain ⟨row, columns, described⟩ := known
    cases wanted : m.needsBounds columns timestamp with
    | false =>
      rw [complete_unbounded described wanted] at more
      simp only at more
      omega
    | true => exact ⟨row, columns, described, TableMetadata.needsBounds_iff.1 wanted⟩
  · obtain ⟨e, failed⟩ := describe_fails known
    rw [complete_undescribed failed] at more
    simp only at more
    omega

theorem complete_more_than_engine
    (more : 1 < (s.complete dataSource timestamp m).2.queries.length) :
    ∃ row, s.store.engine dataSource = .ok (some row) := by
  by_cases known : ∃ row columns, s.Describes dataSource row columns
  · obtain ⟨row, columns, described⟩ := known
    exact ⟨row, described.engine⟩
  · obtain ⟨e, failed⟩ := describe_fails known
    rw [complete_undescribed failed] at more
    exact (s.describe_queries dataSource).2 more

/-- A request asks no more than it has reason to, and whatever it has learned when it ends is in the
metadata. -/
theorem complete_orderly (s : Source) (dataSource timestamp : String) (m : TableMetadata) :
    s.Orderly dataSource timestamp m (s.complete dataSource timestamp m).1
      (s.complete dataSource timestamp m).2 := by
  obtain ⟨engine, columns, planned, -, describes⟩ := s.plannedQueries_eq dataSource timestamp
  constructor
  case inTurn => exact s.complete_queries dataSource timestamp m
  case afterEngine => exact complete_more_than_engine
  case afterColumns => exact complete_more_than_description
  case fails => exact fun e => complete_error_iff
  case undescribed =>
    intro unknown
    refine ⟨complete_unknown unknown, ?_⟩
    obtain ⟨e, failed⟩ := describe_fails unknown
    rw [complete_undescribed failed]
    exact ⟨e, rfl⟩
  case described =>
    intro row reported described merged
    obtain ⟨sameColumns, sameMetrics⟩ := @complete_described _ _ timestamp m _ _ described
    refine ⟨?_, sameColumns, sameMetrics, fun e => complete_failed_late described⟩
    have asked := @describe_begins _ _ timestamp m _ _ described
    rw [describes.complete _ described.result] at asked
    rwa [planned]
  case settled =>
    intro done
    exact .of_success (complete_ok_iff.1 ⟨rfl, done⟩)
  case allSent =>
    intro done row reported described unknown reports
    have wanted := TableMetadata.needsBounds_iff.2 ⟨unknown, reports⟩
    obtain ⟨queries, result⟩ := complete_bounded_request described wanted
    obtain ⟨observed, found, -⟩ := Outcome.map_eq_ok (result.symm.trans done)
    rw [queries, describes.complete _ described.result, planned,
      (s.timeBounds_inTurn dataSource timestamp).complete observed found]
    rfl

/-- The server of sales with its least time after the greatest. -/
def reversedSales : Source :=
  ⟨"db", { Store.sales with bounds := fun _ _ => .ok ⟨3, 86400000, 0⟩ }⟩

theorem reversed_bounds_leave_merge :
    (∃ row columns, reversedSales.Describes "sales" row columns) ∧
      (∃ e, (reversedSales.complete "sales" "ts" .none).2.result = .error e) ∧
      (reversedSales.complete "sales" "ts" .none).1.intervals = none ∧
      (reversedSales.complete "sales" "ts" .none).1.columns.get? "amount" = some .decimal := by
  have described : reversedSales.Describes "sales" _ _ := ⟨rfl, rfl⟩
  obtain ⟨-, columns, -, late⟩ :=
    (complete_orderly reversedSales "sales" "ts" .none).described _ _ described
  obtain ⟨e, failed⟩ := Outcome.exists_error
    (x := (reversedSales.complete "sales" "ts" .none).2.result) (by decide +kernel)
  refine ⟨⟨_, _, described⟩, ⟨e, failed⟩, (late e failed).2, ?_⟩
  rw [columns]
  decide +kernel

end Source

/-- The columns and metrics after a request that may have asked a source: what was there is there,
and what is new is a column that the store reports or a metric among these. -/
structure TableMetadata.ExtendedBy (m : TableMetadata) (asked : Option Source)
    (dataSource timestamp : String) (after : TableMetadata) : Prop where
  keepsColumns : ∀ column type, m.columns.get? column = some type →
    after.columns.get? column = some type
  keepsMetrics : ∀ metric ∈ m.metrics.toList, metric ∈ after.metrics.toList
  newColumns : ∀ column type, after.columns.get? column = some type →
    m.columns.get? column = some type ∨
      ∃ source row columns reported, asked = some source ∧
        source.Describes dataSource row columns ∧ reported ∈ columns ∧
        reported.name = column ∧ scalarType reported.type = type
  newMetrics : ∀ metric ∈ after.metrics.toList, metric ∈ m.metrics.toList ∨
    ∃ source row columns reported, asked = some source ∧
      source.Describes dataSource row columns ∧ reported ∈ columns ∧ reported.name = metric ∧
      reported.IsMetric timestamp (TableEngine.parse row.engine row.full)
  gains : ∀ source row columns, asked = some source → source.Describes dataSource row columns →
    ∀ reported ∈ columns, reported.name ∈ after.columns.keys ∧
      (reported.IsMetric timestamp (TableEngine.parse row.engine row.full) →
        reported.name ∈ after.metrics.toList)

namespace Table

variable {owner : Option String} {dataSource : String} {m : TableMetadata}
  {timestamp : Option String} {asked : Option Source}

theorem createDiscovered_asked (source : Source) :
    (createDiscovered owner dataSource m timestamp (some source)).1 =
      (source.complete dataSource (timestamp.getD "__time") m).1 := by
  simp only [createDiscovered, defaultTimestamp]

theorem createDiscovered_made {t : Table}
    (made : (createDiscovered owner dataSource m timestamp asked).2.result = .ok t) :
    t.columns = (createDiscovered owner dataSource m timestamp asked).1.columns ∧
      t.metrics = (createDiscovered owner dataSource m timestamp asked).1.metrics := by
  cases owner with
  | none =>
    obtain ⟨_, -, created⟩ := Exchange.bind_result_ok made
    cases created
  | some owner =>
    obtain ⟨_, -, created⟩ := Exchange.bind_result_ok made
    obtain ⟨-, -, rfl⟩ := create_ok_iff.1 created
    exact ⟨rfl, rfl⟩

end Table

namespace TableMetadata.ExtendedBy

variable {m after : TableMetadata} {source : Source} {dataSource timestamp : String}

theorem untouched {asked : Option Source}
    (unknown : ∀ source, asked = some source →
      ¬ ∃ row columns, source.Describes dataSource row columns) :
    m.ExtendedBy asked dataSource timestamp m where
  keepsColumns _ _ known := known
  keepsMetrics _ known := known
  newColumns _ _ known := .inl known
  newMetrics _ known := .inl known
  gains source row columns asks described := absurd ⟨row, columns, described⟩ (unknown source asks)

theorem described {row : EngineRow} {columns : List ReportedColumn}
    (described : source.Describes dataSource row columns)
    (sameColumns : after.columns =
      (m.merge (TableEngine.parse row.engine row.full) columns timestamp).columns)
    (sameMetrics : after.metrics =
      (m.merge (TableEngine.parse row.engine row.full) columns timestamp).metrics) :
    m.ExtendedBy (some source) dataSource timestamp after where
  keepsColumns column type known := by
    rw [sameColumns]
    exact merge_keeps_column _ _ _ known
  keepsMetrics metric known := by
    rw [sameMetrics]
    exact mem_merge_metrics.2 (.inl known)
  newColumns column type known := by
    rw [sameColumns] at known
    apply (merge_draws_column known).imp_right
    rintro ⟨reported, member, named, typed⟩
    exact ⟨source, row, columns, reported, rfl, described, member, named, typed⟩
  newMetrics metric known := by
    rw [sameMetrics] at known
    apply (mem_merge_metrics.1 known).imp_right
    intro inferred
    obtain ⟨reported, member, named, isMetric⟩ := mem_classifyMetrics_iff.1 inferred
    exact ⟨source, row, columns, reported, rfl, described, member, named, isMetric⟩
  gains other row' columns' asked again reported member := by
    cases asked
    have sameRow := described.engine.symm.trans again.engine
    have sameReport := described.columns.symm.trans again.columns
    cases sameRow
    cases sameReport
    rw [sameColumns, sameMetrics]
    refine ⟨mem_merge_columns.2 (.inr ⟨reported, member, rfl⟩), fun isMetric => ?_⟩
    exact mem_merge_metrics.2 (.inr (mem_classifyMetrics_iff.2 ⟨reported, member, rfl, isMetric⟩))

theorem complete (source : Source) (dataSource timestamp : String) (m : TableMetadata) :
    m.ExtendedBy (some source) dataSource timestamp (source.complete dataSource timestamp m).1 := by
  by_cases known : ∃ row columns, source.Describes dataSource row columns
  · obtain ⟨row, columns, known⟩ := known
    obtain ⟨sameColumns, sameMetrics⟩ := @Source.complete_described _ _ timestamp m _ _ known
    exact .described known sameColumns sameMetrics
  · rw [Source.complete_unknown known]
    apply untouched
    rintro _ ⟨⟩
    exact known

end TableMetadata.ExtendedBy

namespace Table

/-- However a request for a table ends, the columns and metrics that it was given for are still
there, and a table that is made has just those that are there then. -/
theorem createDiscovered_keeps_collections (owner : Option String) (dataSource : String)
    (m : TableMetadata) (timestamp : Option String) (asked : Option Source) :
    m.ExtendedBy asked dataSource (timestamp.getD "__time")
        (createDiscovered owner dataSource m timestamp asked).1 ∧
      (asked = none → (createDiscovered owner dataSource m timestamp asked).1 = m) ∧
      ∀ t, (createDiscovered owner dataSource m timestamp asked).2.result = .ok t →
        t.metrics = (createDiscovered owner dataSource m timestamp asked).1.metrics ∧
          ∀ row, t.rowType .permissive = .ok row →
            row.fields.map (fun f => (f.name, f.type)) =
              (createDiscovered owner dataSource m timestamp asked).1.columns.entries := by
  refine ⟨?_, ?_, fun t made => ?_⟩
  · cases asked with
    | none => exact .untouched nofun
    | some source =>
      rw [createDiscovered_asked]
      exact .complete source _ _ m
  · rintro rfl
    rfl
  · obtain ⟨columns, metrics⟩ := createDiscovered_made made
    refine ⟨metrics, fun row resolved => ?_⟩
    rw [← columns, (rowType_ok_iff.1 resolved).2, RowType.entries_ofColumns]

/-- The amount is taken for text before the server of sales is asked. -/
def guessedSales : TableMetadata :=
  ⟨NameMap.empty.insert "amount" .varchar, NameMap.empty, none⟩

theorem guessed_amount_kept :
    ∃ t row,
      (createDiscovered (some "shop") "sales" guessedSales (some "ts")
        (some ⟨"db", .sales⟩)).2.result = .ok t ∧
      t.rowType .permissive = .ok row ∧
      ("amount", .varchar) ∈ row.fields.map fun f => (f.name, f.type) := by
  obtain ⟨extended, -, tables⟩ := createDiscovered_keeps_collections (some "shop") "sales"
    guessedSales (some "ts") (some ⟨"db", .sales⟩)
  obtain ⟨t, made, resolves⟩ := Outcome.exists_ok_of_any
    (x := (createDiscovered (some "shop") "sales" guessedSales (some "ts")
      (some ⟨"db", .sales⟩)).2.result)
    (p := fun t => (t.rowType .permissive).toOption.any fun _ => true) (by decide +kernel)
  obtain ⟨row, resolved, -⟩ := Outcome.exists_ok_of_any resolves
  refine ⟨t, row, made, resolved, ?_⟩
  rw [(tables t made).2 row resolved, ← NameMap.get?_eq_some_iff]
  exact extended.keepsColumns "amount" .varchar (by decide +kernel)

end Table

end SeriesCatalog
