import Mathlib.Data.List.Forall2
import SeriesCatalog.Proofs.Metrics

/-! # Reports merged one after the other

Reports of the store only add to what is known of a table. The first to report a column settles its
type, whatever later reports say of it, and a report that is merged again adds nothing. Within one
report the order of the columns does not matter if their names are distinct.
-/

namespace SeriesCatalog

open ClickHouse

/-- What the store reports of a table, and the column that is to be its timestamp. -/
structure Report where
  engine : TableEngine
  columns : List ReportedColumn
  timestamp : String

namespace Report

def metrics (r : Report) : NameSet :=
  classifyMetrics r.engine r.columns r.timestamp

def IsFirst (r : Report) (c : ReportedColumn) : Prop :=
  ∃ earlier later, r.columns = earlier ++ c :: later ∧ ∀ other ∈ earlier, other.name ≠ c.name

/-- The first column of a name in the first of the reports that have the name. -/
def IsFirstOf (reports : List Report) (c : ReportedColumn) : Prop :=
  ∃ earlier r later, reports = earlier ++ r :: later ∧
    (∀ other ∈ earlier, ¬ Reports other.columns c.name) ∧ r.IsFirst c

/-- The same report, up to the order of its columns and of those that the engine lists. -/
structure Reorders (r' r : Report) : Prop where
  engine : r'.engine.Relists r.engine
  columns : r'.columns.Perm r.columns
  timestamp : r'.timestamp = r.timestamp

def column? (r : Report) (name : String) : Option ReportedColumn :=
  r.columns.find? (·.name == name)

variable {r r' : Report} {reports : List Report} {c : ReportedColumn} {name : String}

theorem column?_eq_some_iff : r.column? name = some c ↔ c.name = name ∧ r.IsFirst c := by
  simp only [column?, List.find?_eq_some_iff_append, beq_iff_eq, Bool.not_eq_true',
    beq_eq_false_iff_ne]
  constructor
  · rintro ⟨rfl, first⟩
    exact ⟨rfl, first⟩
  · rintro ⟨rfl, first⟩
    exact ⟨rfl, first⟩

theorem column?_eq_none_iff : r.column? name = none ↔ ¬ Reports r.columns name := by
  simp only [column?, List.find?_eq_none, beq_iff_eq, Reports, not_exists, not_and]

theorem findSome?_column?_iff :
    reports.findSome? (·.column? name) = some c ↔ c.name = name ∧ IsFirstOf reports c := by
  simp only [List.findSome?_eq_some_iff, column?_eq_some_iff, column?_eq_none_iff]
  constructor
  · rintro ⟨earlier, r, later, whole, ⟨rfl, first⟩, unreported⟩
    exact ⟨rfl, earlier, r, later, whole, unreported, first⟩
  · rintro ⟨rfl, earlier, r, later, whole, unreported, first⟩
    exact ⟨earlier, r, later, whole, ⟨rfl, first⟩, unreported⟩

theorem Reorders.column? (moved : r'.Reorders r) (distinct : (r.columns.map (·.name)).Nodup)
    (name : String) : r'.column? name = r.column? name := by
  have distinct' : (r'.columns.map (·.name)).Nodup :=
    (moved.columns.map _).nodup_iff.2 distinct
  apply Option.ext
  intro c
  rw [Report.column?, Report.column?, find?_name_iff distinct, find?_name_iff distinct',
    moved.columns.mem_iff]

theorem Reorders.metrics (moved : r'.Reorders r) : r'.metrics = r.metrics := by
  rw [Report.metrics, Report.metrics, moved.timestamp]
  exact classifyMetrics_perm moved.columns moved.engine

end Report

namespace TableMetadata

variable {m : TableMetadata} {r r' : Report} {reports : List Report} {name : String}

/-- Merges a report. The answer tells whether the time bounds are worth asking for. -/
def mergeReport (m : TableMetadata) (r : Report) : Bool × TableMetadata :=
  (m.needsBounds r.columns r.timestamp, m.merge r.engine r.columns r.timestamp)

/-- Merges reports in turn, with the answer to each. -/
def mergeReports (m : TableMetadata) : List Report → List Bool × TableMetadata
  | [] => ([], m)
  | r :: rest =>
    let (answer, merged) := m.mergeReport r
    let (answers, final) := merged.mergeReports rest
    (answer :: answers, final)

def MetricsAreColumns (m : TableMetadata) : Prop :=
  ∀ metric ∈ m.metrics.toList, metric ∈ m.columns.keys

instance (m : TableMetadata) : Decidable m.MetricsAreColumns :=
  inferInstanceAs (Decidable (∀ metric ∈ m.metrics.toList, metric ∈ m.columns.keys))

theorem get?_mergeReport (m : TableMetadata) (r : Report) (name : String) :
    (m.mergeReport r).2.columns.get? name =
      (m.columns.get? name).or ((r.column? name).map fun c => scalarType c.type) :=
  get?_merge_columns m r.engine r.columns r.timestamp name

theorem mem_columns_mergeReport :
    name ∈ (m.mergeReport r).2.columns.keys ↔ name ∈ m.columns.keys ∨ Reports r.columns name :=
  mem_merge_columns

theorem mem_metrics_mergeReport :
    name ∈ (m.mergeReport r).2.metrics.toList ↔
      name ∈ m.metrics.toList ∨ name ∈ r.metrics.toList :=
  mem_merge_metrics

theorem intervals_mergeReport (m : TableMetadata) (r : Report) :
    (m.mergeReport r).2.intervals = m.intervals :=
  rfl

theorem answer_mergeReport :
    (m.mergeReport r).1 = true ↔ m.intervals = Option.none ∧ Reports r.columns r.timestamp :=
  needsBounds_iff

theorem MetricsAreColumns.mergeReport (known : m.MetricsAreColumns) (r : Report) :
    (m.mergeReport r).2.MetricsAreColumns := by
  intro metric member
  rw [mem_columns_mergeReport]
  rcases mem_metrics_mergeReport.1 member with old | inferred
  · exact .inl (known metric old)
  · exact .inr (classifyMetrics_reported inferred)

theorem eq_of_parts {m m' : TableMetadata}
    (columns : ∀ name, m.columns.get? name = m'.columns.get? name)
    (metrics : ∀ name, name ∈ m.metrics.toList ↔ name ∈ m'.metrics.toList)
    (intervals : m.intervals = m'.intervals) : m = m' := by
  have sameColumns := NameMap.ext_get? columns
  have sameMetrics := NameSet.ext metrics
  cases m
  cases m'
  simp only [TableMetadata.mk.injEq]
  exact ⟨sameColumns, sameMetrics, intervals⟩

theorem mergeReport_reorders (moved : r'.Reorders r)
    (distinct : (r.columns.map (·.name)).Nodup) : m.mergeReport r' = m.mergeReport r := by
  have answers : (m.mergeReport r').1 = (m.mergeReport r).1 := by
    rw [Bool.eq_iff_iff, answer_mergeReport, answer_mergeReport, moved.timestamp]
    simp only [Reports, moved.columns.mem_iff]
  have merged : (m.mergeReport r').2 = (m.mergeReport r).2 := by
    apply eq_of_parts
    · intro name
      rw [get?_mergeReport, get?_mergeReport, moved.column? distinct]
    · intro name
      rw [mem_metrics_mergeReport, mem_metrics_mergeReport, moved.metrics]
    · rfl
  exact Prod.ext answers merged

/-- The columns that are reported again are known by then, with the types of this very report. -/
theorem mergeReport_again (m : TableMetadata) (r : Report) :
    (m.mergeReport r).2.mergeReport r = m.mergeReport r := by
  have merged : ((m.mergeReport r).2.mergeReport r).2 = (m.mergeReport r).2 := by
    apply eq_of_parts
    · intro name
      rw [get?_mergeReport, get?_mergeReport, Option.or_assoc, Option.or_self]
    · intro name
      rw [mem_metrics_mergeReport, mem_metrics_mergeReport, or_assoc, or_self]
    · rfl
  exact Prod.ext rfl merged

/-- A report settles the metadata in one go: the order of its columns does not matter, and merging
it again has no effect. -/
theorem mergeReport_settles (m : TableMetadata) (r : Report) :
    ((r.columns.map (·.name)).Nodup → ∀ r' : Report, r'.Reorders r →
        m.mergeReport r' = m.mergeReport r) ∧
      (m.mergeReport r).2.mergeReport r = m.mergeReport r := by
  refine ⟨?_, mergeReport_again m r⟩
  intro distinct r' moved
  exact mergeReport_reorders moved distinct

/-- The revenue is taken for text, and is no metric yet. -/
def guessed : TableMetadata :=
  ⟨NameMap.ofList [("city", .char), ("revenue", .varchar)], NameSet.ofNames ["city"], Option.none⟩

def visitReport : Report :=
  ⟨.summing ["revenue", "ghost"], visitColumns, "ts"⟩

theorem visits_settle :
    (visitReport.columns.map (·.name)).Nodup ∧
      guessed.mergeReport ⟨.summing ["ghost", "revenue"], visitColumns.reverse, "ts"⟩ =
        guessed.mergeReport visitReport ∧
      (guessed.mergeReport visitReport).2.mergeReport visitReport =
        guessed.mergeReport visitReport ∧
      (guessed.mergeReport visitReport).2.columns.get? "revenue" = some .varchar := by
  have distinct : (visitReport.columns.map (·.name)).Nodup := by decide
  obtain ⟨reordered, again⟩ := mergeReport_settles guessed visitReport
  refine ⟨distinct, reordered distinct _ ⟨?_, ?_, rfl⟩, again, by decide +kernel⟩
  · exact .summing (.swap _ _ _)
  · exact List.reverse_perm _

theorem mergeReports_cons (m : TableMetadata) (r : Report) (rest : List Report) :
    m.mergeReports (r :: rest) =
      ((m.mergeReport r).1 :: ((m.mergeReport r).2.mergeReports rest).1,
        ((m.mergeReport r).2.mergeReports rest).2) :=
  rfl

theorem get?_mergeReports (m : TableMetadata) (reports : List Report) (name : String) :
    (m.mergeReports reports).2.columns.get? name =
      (m.columns.get? name).or
        ((reports.findSome? (·.column? name)).map fun c => scalarType c.type) := by
  induction reports generalizing m with
  | nil => simp only [mergeReports, List.findSome?_nil, Option.map_none, Option.or_none]
  | cons r rest ih =>
    rw [mergeReports_cons, ih, get?_mergeReport, List.findSome?_cons, Option.or_assoc]
    cases r.column? name <;> simp

theorem mem_columns_mergeReports :
    name ∈ (m.mergeReports reports).2.columns.keys ↔
      name ∈ m.columns.keys ∨ ∃ r ∈ reports, Reports r.columns name := by
  induction reports generalizing m with
  | nil => simp [mergeReports]
  | cons r rest ih =>
    simp only [mergeReports_cons, ih, mem_columns_mergeReport, or_assoc, List.mem_cons,
      exists_eq_or_imp]

theorem mem_metrics_mergeReports :
    name ∈ (m.mergeReports reports).2.metrics.toList ↔
      name ∈ m.metrics.toList ∨ ∃ r ∈ reports, name ∈ r.metrics.toList := by
  induction reports generalizing m with
  | nil => simp [mergeReports]
  | cons r rest ih =>
    simp only [mergeReports_cons, ih, mem_metrics_mergeReport, or_assoc, List.mem_cons,
      exists_eq_or_imp]

theorem intervals_mergeReports (m : TableMetadata) (reports : List Report) :
    (m.mergeReports reports).2.intervals = m.intervals := by
  induction reports generalizing m with
  | nil => rfl
  | cons r rest ih => rw [mergeReports_cons, ih, intervals_mergeReport]

theorem answers_mergeReports (m : TableMetadata) (reports : List Report) :
    List.Forall₂
      (fun r answer =>
        answer = true ↔ m.intervals = Option.none ∧ Reports r.columns r.timestamp)
      reports (m.mergeReports reports).1 := by
  induction reports generalizing m with
  | nil => exact .nil
  | cons r rest ih =>
    rw [mergeReports_cons]
    exact .cons answer_mergeReport (ih (m.mergeReport r).2)

theorem MetricsAreColumns.mergeReports (known : m.MetricsAreColumns) (reports : List Report) :
    (m.mergeReports reports).2.MetricsAreColumns := by
  induction reports generalizing m with
  | nil => exact known
  | cons r rest ih =>
    rw [mergeReports_cons]
    exact ih (known.mergeReport r)

/-- What is known after some reports: what was known before, and what they add. -/
structure Completes (m : TableMetadata) (reports : List Report) (final : TableMetadata) : Prop where
  columns : ∀ name, name ∈ final.columns.keys ↔
    name ∈ m.columns.keys ∨ ∃ r ∈ reports, Reports r.columns name
  types : ∀ name type, final.columns.get? name = some type ↔
    m.columns.get? name = some type ∨
      name ∉ m.columns.keys ∧
        ∃ c, Report.IsFirstOf reports c ∧ c.name = name ∧ scalarType c.type = type
  metrics : ∀ name, name ∈ final.metrics.toList ↔
    name ∈ m.metrics.toList ∨ ∃ r ∈ reports, name ∈ r.metrics.toList
  intervals : final.intervals = m.intervals

theorem completes_mergeReports (m : TableMetadata) (reports : List Report) :
    m.Completes reports (m.mergeReports reports).2 where
  columns _ := mem_columns_mergeReports
  types name type := by
    have unknown : name ∉ m.columns.keys ↔ m.columns.get? name = Option.none := by
      rw [← NameMap.contains_iff_mem_keys, NameMap.contains, Bool.not_eq_true,
        Option.isSome_eq_false_iff, Option.isNone_iff_eq_none]
    rw [get?_mergeReports, unknown, Option.or_eq_some_iff]
    refine or_congr Iff.rfl (and_congr Iff.rfl ?_)
    simp only [Option.map_eq_some_iff, Report.findSome?_column?_iff]
    constructor
    · rintro ⟨c, ⟨named, first⟩, typed⟩
      exact ⟨c, first, named, typed⟩
    · rintro ⟨c, first, named, typed⟩
      exact ⟨c, ⟨named, first⟩, typed⟩
  metrics _ := mem_metrics_mergeReports
  intervals := intervals_mergeReports m reports

/-- Reports add to what is known and change nothing of it, each answers for its own timestamp, and
metrics stay columns all along. -/
theorem reports_only_add (m : TableMetadata) (reports : List Report) :
    m.Completes reports (m.mergeReports reports).2 ∧
      List.Forall₂
        (fun r answer =>
          answer = true ↔ m.intervals = Option.none ∧ Reports r.columns r.timestamp)
        reports (m.mergeReports reports).1 ∧
      (m.MetricsAreColumns → ∀ merged, merged <+: reports →
        (m.mergeReports merged).2.MetricsAreColumns) := by
  refine ⟨completes_mergeReports m reports, answers_mergeReports m reports, ?_⟩
  intro known merged _
  exact known.mergeReports merged

/-- The second report brings the time, and takes the clicks for small numbers and for text. -/
def changedReports : List Report :=
  [⟨.mergeTree, [⟨"city", "String", true⟩, ⟨"clicks", "UInt64", false⟩], "time"⟩,
    ⟨.aggregating, [⟨"clicks", "Int8", false⟩, ⟨"clicks", "String", false⟩,
      ⟨"time", "DateTime", false⟩], "time"⟩]

theorem changes_ignored :
    guessed.MetricsAreColumns ∧ (guessed.mergeReports changedReports).1 = [false, true] ∧
      (guessed.mergeReports changedReports).2.columns.get? "clicks" = some .decimal ∧
      "clicks" ∈ (guessed.mergeReports changedReports).2.metrics.toList ∧
      (guessed.mergeReports changedReports).2.MetricsAreColumns := by
  have known : guessed.MetricsAreColumns := by decide +kernel
  obtain ⟨completes, -, columns⟩ := reports_only_add guessed changedReports
  refine ⟨known, by decide +kernel, ?_, by decide +kernel,
    columns known changedReports (List.prefix_refl _)⟩
  refine (completes.types "clicks" .decimal).2 (.inr ⟨by decide +kernel, ?_⟩)
  refine ⟨⟨"clicks", "UInt64", false⟩, ⟨[], _, _, rfl, by simp, ?_⟩, rfl, by decide +kernel⟩
  exact ⟨[⟨"city", "String", true⟩], [], rfl, by decide⟩

end TableMetadata

end SeriesCatalog
