import SeriesCatalog.Metadata
import SeriesCatalog.Proofs.AggregateType
import SeriesCatalog.Proofs.NameMap

/-! # Completing metadata

Reported columns are added to what is known and change none of it. A column becomes a metric by its
type or by the engine. Whatever is inferred to be a metric is a reported column, so it is a column
of the completed metadata too.
-/

namespace SeriesCatalog

open ClickHouse

/-- The column is one of those that the store reports. -/
def Reports (columns : List ReportedColumn) (name : String) : Prop :=
  ∃ column ∈ columns, column.name = name

namespace ReportedColumn

/-- What an aggregating engine adds up when it names no columns. -/
structure IsMeasure (c : ReportedColumn) (timestamp : String) : Prop where
  outsideKey : c.inSortingKey = false
  notTimestamp : c.name ≠ timestamp
  numeric : (scalarType c.type).isNumeric = true

/-- The engine makes the column a metric: it lists the column, or it aggregates measures without a
list. -/
inductive IsImplied (c : ReportedColumn) (timestamp : String) : TableEngine → Prop where
  | listed {names : List String} (named : c.name ∈ names) : IsImplied c timestamp (.summing names)
  | summed (measure : c.IsMeasure timestamp) : IsImplied c timestamp (.summing [])
  | aggregated (measure : c.IsMeasure timestamp) : IsImplied c timestamp .aggregating

/-- The column keeps an aggregate under any wrappers. -/
def IsAggregate (c : ReportedColumn) : Prop :=
  KeepsAggregate (Text.trim c.type.toList)

def IsMetric (c : ReportedColumn) (timestamp : String) (engine : TableEngine) : Prop :=
  c.IsAggregate ∨ c.IsImplied timestamp engine

variable {c : ReportedColumn} {timestamp : String}

theorem isMeasure_iff : c.isMeasure timestamp = true ↔ c.IsMeasure timestamp := by
  simp only [isMeasure, Bool.and_eq_true, Bool.not_eq_true', bne_iff_ne, ne_eq]
  constructor
  · rintro ⟨⟨outsideKey, notTimestamp⟩, numeric⟩
    exact ⟨outsideKey, notTimestamp, numeric⟩
  · rintro ⟨outsideKey, notTimestamp, numeric⟩
    exact ⟨⟨outsideKey, notTimestamp⟩, numeric⟩

@[simp] theorem isImplied_mergeTree : ¬ c.IsImplied timestamp .mergeTree := by
  intro implied
  cases implied

@[simp] theorem isImplied_other (name : String) : ¬ c.IsImplied timestamp (.other name) := by
  intro implied
  cases implied

@[simp] theorem isImplied_aggregating :
    c.IsImplied timestamp .aggregating ↔ c.IsMeasure timestamp := by
  constructor
  · intro implied
    cases implied with
    | aggregated measure => exact measure
  · exact .aggregated

@[simp] theorem isImplied_unlisted :
    c.IsImplied timestamp (.summing []) ↔ c.IsMeasure timestamp := by
  constructor
  · intro implied
    cases implied with
    | listed named => cases named
    | summed measure => exact measure
  · exact .summed

theorem isImplied_listed {names : List String} (some : names ≠ []) :
    c.IsImplied timestamp (.summing names) ↔ c.name ∈ names := by
  constructor
  · intro implied
    cases implied with
    | listed named => exact named
    | summed => exact absurd rfl some
  · exact .listed

end ReportedColumn

section Metrics

variable {engine : TableEngine} {columns : List ReportedColumn} {timestamp metric : String}

theorem mem_names_iff {test : ReportedColumn → Bool} {property : ReportedColumn → Prop}
    (decides : ∀ column, test column = true ↔ property column) :
    metric ∈ (columns.filter test).map (·.name) ↔
      ∃ column ∈ columns, column.name = metric ∧ property column := by
  simp only [List.mem_map, List.mem_filter, decides]
  constructor
  · rintro ⟨column, ⟨reported, holds⟩, same⟩
    exact ⟨column, reported, same, holds⟩
  · rintro ⟨column, reported, same, holds⟩
    exact ⟨column, ⟨reported, holds⟩, same⟩

theorem mem_listed_iff {names : List String} :
    (metric ∈ names.filter fun name => columns.any fun c => c.name == name) ↔
      ∃ column ∈ columns, column.name = metric ∧ column.name ∈ names := by
  simp only [List.mem_filter, List.any_eq_true, beq_iff_eq]
  constructor
  · rintro ⟨named, column, reported, rfl⟩
    exact ⟨column, reported, rfl, named⟩
  · rintro ⟨column, reported, rfl, named⟩
    exact ⟨named, column, reported, rfl⟩

theorem mem_engineMetrics_iff :
    metric ∈ engineMetrics engine columns timestamp ↔
      ∃ column ∈ columns, column.name = metric ∧ column.IsImplied timestamp engine := by
  have measures : metric ∈ (columns.filter (·.isMeasure timestamp)).map (·.name) ↔
      ∃ column ∈ columns, column.name = metric ∧ column.IsMeasure timestamp :=
    mem_names_iff fun _ => ReportedColumn.isMeasure_iff
  cases engine with
  | mergeTree | other => simp [engineMetrics, TableEngine.isAggregating]
  | aggregating =>
    simp only [ReportedColumn.isImplied_aggregating]
    exact measures
  | summing names =>
    -- Only an empty list stands for every measure.
    cases names with
    | nil =>
      simp only [ReportedColumn.isImplied_unlisted]
      exact measures
    | cons first rest =>
      simp only [ReportedColumn.isImplied_listed (List.cons_ne_nil first rest)]
      exact mem_listed_iff

theorem mem_classifyMetrics_iff :
    metric ∈ (classifyMetrics engine columns timestamp).toList ↔
      ∃ column ∈ columns, column.name = metric ∧ column.IsMetric timestamp engine := by
  rw [classifyMetrics, NameSet.mem_addAll, NameSet.mem_ofNames, mem_engineMetrics_iff,
    mem_names_iff fun _ => isAggregateType_iff]
  simp only [ReportedColumn.IsMetric, ReportedColumn.IsAggregate, and_or_left, exists_or]

theorem classifyMetrics_reported
    (member : metric ∈ (classifyMetrics engine columns timestamp).toList) :
    Reports columns metric := by
  obtain ⟨column, reported, same, -⟩ := mem_classifyMetrics_iff.1 member
  exact ⟨column, reported, same⟩

end Metrics

namespace TableMetadata

/-- A column has the type that it is known with, or else that of its first report. -/
theorem get?_merge_columns (m : TableMetadata) (engine : TableEngine)
    (columns : List ReportedColumn) (timestamp name : String) :
    (m.merge engine columns timestamp).columns.get? name =
      (m.columns.get? name).or
        ((columns.find? (·.name == name)).map fun column => scalarType column.type) := by
  unfold merge
  induction columns generalizing m with
  | nil => simp only [List.foldl_nil, List.find?_nil, Option.map_none, Option.or_none]
  | cons column rest ih =>
    have step := ih { m with columns := m.columns.insertNew column.name (scalarType column.type) }
    simp only [List.foldl_cons] at step ⊢
    rw [step, NameMap.get?_insertNew, List.find?_cons, Option.or_assoc]
    by_cases same : name = column.name
    · simp only [same, if_true, beq_self_eq_true, Option.some_or, Option.map_some]
    · have other : (column.name == name) = false := by
        simpa using fun equal => same equal.symm
      simp only [if_neg same, other, Option.none_or]

theorem merge_draws_column {m : TableMetadata} {engine : TableEngine}
    {columns : List ReportedColumn} {timestamp name : String} {type : ScalarType}
    (known : (m.merge engine columns timestamp).columns.get? name = some type) :
    m.columns.get? name = some type ∨
      ∃ reported ∈ columns, reported.name = name ∧ scalarType reported.type = type := by
  rw [get?_merge_columns, Option.or_eq_some_iff] at known
  rcases known with own | ⟨-, added⟩
  · exact .inl own
  · obtain ⟨reported, found, typed⟩ := Option.map_eq_some_iff.1 added
    refine .inr ⟨reported, List.mem_of_find?_eq_some found, ?_, typed⟩
    simpa using List.find?_some found

theorem merge_keeps_column {m : TableMetadata} {name : String} {type : ScalarType}
    (engine : TableEngine) (columns : List ReportedColumn) (timestamp : String)
    (known : m.columns.get? name = some type) :
    (m.merge engine columns timestamp).columns.get? name = some type := by
  rw [get?_merge_columns, known, Option.some_or]

theorem mem_merge_columns {m : TableMetadata} {engine : TableEngine}
    {columns : List ReportedColumn} {timestamp name : String} :
    name ∈ (m.merge engine columns timestamp).columns.keys ↔
      name ∈ m.columns.keys ∨ Reports columns name := by
  have reported : (columns.find? (·.name == name)).isSome = true ↔ Reports columns name := by
    simp only [List.find?_isSome, beq_iff_eq, Reports]
  rw [← reported]
  simp only [← NameMap.contains_iff_mem_keys, NameMap.contains, get?_merge_columns,
    Option.isSome_or, Option.isSome_map, Bool.or_eq_true]

theorem needsBounds_iff {m : TableMetadata} {columns : List ReportedColumn} {timestamp : String} :
    m.needsBounds columns timestamp = true ↔
      m.intervals = Option.none ∧ Reports columns timestamp := by
  simp only [needsBounds, Bool.and_eq_true, Option.isNone_iff_eq_none, List.any_eq_true, beq_iff_eq,
    Reports]

theorem mem_merge_metrics {m : TableMetadata} {engine : TableEngine}
    {columns : List ReportedColumn} {timestamp name : String} :
    name ∈ (m.merge engine columns timestamp).metrics.toList ↔
      name ∈ m.metrics.toList ∨ name ∈ (classifyMetrics engine columns timestamp).toList :=
  NameSet.mem_addAll

end TableMetadata

end SeriesCatalog
