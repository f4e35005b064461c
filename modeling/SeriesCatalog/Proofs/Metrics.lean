import SeriesCatalog.Proofs.Metadata

/-! # Metrics among reported columns

A reported column is a metric by its type or by the engine, and in no other way. Neither the order
of the columns nor that of an engine's list has a part in it.
-/

namespace SeriesCatalog

open ClickHouse

/-- The same engine, up to the order in which it lists columns. -/
inductive ClickHouse.TableEngine.Relists : TableEngine → TableEngine → Prop where
  | same (engine : TableEngine) : Relists engine engine
  | summing {names names' : List String} (moved : names'.Perm names) :
      Relists (.summing names') (.summing names)

variable {engine engine' : TableEngine} {columns columns' : List ReportedColumn}
  {timestamp : String}

namespace ReportedColumn

variable {c : ReportedColumn}

theorem isImplied_relists (relists : engine'.Relists engine) :
    c.IsImplied timestamp engine' ↔ c.IsImplied timestamp engine := by
  cases relists with
  | same => rfl
  | @summing names names' moved =>
    by_cases none : names = []
    · subst none
      rw [List.perm_nil.1 moved]
    · have none' : names' ≠ [] := fun empty => none (List.nil_perm.1 (empty ▸ moved))
      rw [isImplied_listed none, isImplied_listed none', moved.mem_iff]

theorem isMetric_relists (relists : engine'.Relists engine) :
    c.IsMetric timestamp engine' ↔ c.IsMetric timestamp engine := by
  rw [IsMetric, IsMetric, isImplied_relists relists]

/-- Measures are neither in the sorting key nor the timestamp: only a list implies those. -/
theorem IsImplied.of_excluded (implied : c.IsImplied timestamp engine)
    (excluded : c.inSortingKey = true ∨ c.name = timestamp) :
    ∃ names, engine = .summing names ∧ c.name ∈ names := by
  have unmeasured : ¬ c.IsMeasure timestamp := by
    intro measure
    rcases excluded with inKey | isTimestamp
    · rw [measure.outsideKey] at inKey
      cases inKey
    · exact measure.notTimestamp isTimestamp
  cases implied with
  | listed named => exact ⟨_, rfl, named⟩
  | summed measure => exact absurd measure unmeasured
  | aggregated measure => exact absurd measure unmeasured

end ReportedColumn

theorem classifyMetrics_perm (moved : columns'.Perm columns) (relists : engine'.Relists engine) :
    classifyMetrics engine' columns' timestamp = classifyMetrics engine columns timestamp := by
  apply NameSet.ext
  intro name
  simp only [mem_classifyMetrics_iff, moved.mem_iff, ReportedColumn.isMetric_relists relists]

/-- The metrics are the reported columns that their type or the engine makes metrics. A column of
the sorting key or the timestamp is one only by its type or by name, and an engine with a list of
unknown names implies none. -/
theorem classifyMetrics_exact (engine : TableEngine) (timestamp : String)
    (distinct : (columns.map (·.name)).Nodup) :
    (∀ name, name ∈ (classifyMetrics engine columns timestamp).toList ↔
        ∃ column ∈ columns, column.name = name ∧ column.IsMetric timestamp engine) ∧
      (∀ column ∈ columns, column.inSortingKey = true ∨ column.name = timestamp →
        column.name ∈ (classifyMetrics engine columns timestamp).toList →
        column.IsAggregate ∨ ∃ names, engine = .summing names ∧ column.name ∈ names) ∧
      (∀ names, engine = .summing names → names ≠ [] → (∀ name ∈ names, ¬ Reports columns name) →
        ∀ name, name ∈ (classifyMetrics engine columns timestamp).toList ↔
          ∃ column ∈ columns, column.name = name ∧ column.IsAggregate) ∧
      ∀ columns' engine', columns'.Perm columns → engine'.Relists engine →
        classifyMetrics engine' columns' timestamp = classifyMetrics engine columns timestamp := by
  refine ⟨fun name => mem_classifyMetrics_iff, ?_, ?_, ?_⟩
  · intro column reported excluded member
    obtain ⟨column', reported', same, metric⟩ := mem_classifyMetrics_iff.1 member
    obtain rfl := List.inj_on_of_nodup_map distinct reported' reported same
    rcases metric with kept | implied
    · exact .inl kept
    · exact .inr (implied.of_excluded excluded)
  · rintro names rfl some unknown name
    rw [mem_classifyMetrics_iff]
    constructor
    · rintro ⟨column, reported, same, kept | implied⟩
      · exact ⟨column, reported, same, kept⟩
      · have named := (ReportedColumn.isImplied_listed some).1 implied
        exact absurd ⟨column, reported, rfl⟩ (unknown _ named)
    · rintro ⟨column, reported, same, kept⟩
      exact ⟨column, reported, same, .inl kept⟩
  · intro columns' engine' moved relists
    exact classifyMetrics_perm moved relists

/-- The key holds a state under two wrappers, behind two numbers outside of it. -/
def visitColumns : List ReportedColumn :=
  [⟨"ts", "DateTime", true⟩, ⟨"clicks", "UInt32", false⟩, ⟨"revenue", "Float64", false⟩,
    ⟨"visitors", "LowCardinality(Nullable(AggregateFunction(uniq, String)))", true⟩]

theorem visits_classified :
    (visitColumns.map (·.name)).Nodup ∧
      (classifyMetrics (.summing ["revenue", "ghost"]) visitColumns "ts").toList =
        ["revenue", "visitors"] ∧
      (∃ column ∈ visitColumns, column.name = "visitors" ∧
        column.IsMetric "ts" (.summing ["revenue", "ghost"])) ∧
      classifyMetrics (.summing ["ghost", "revenue"]) visitColumns.reverse "ts" =
        classifyMetrics (.summing ["revenue", "ghost"]) visitColumns "ts" := by
  have distinct : (visitColumns.map (·.name)).Nodup := by decide
  have listed : (classifyMetrics (.summing ["revenue", "ghost"]) visitColumns "ts").toList =
      ["revenue", "visitors"] := by decide +kernel
  obtain ⟨metrics, -, -, ordered⟩ :=
    classifyMetrics_exact (.summing ["revenue", "ghost"]) "ts" distinct
  refine ⟨distinct, listed, (metrics "visitors").1 (by simp [listed]), ?_⟩
  exact ordered _ _ (List.reverse_perm _) (.summing (.swap _ _ _))

end SeriesCatalog
