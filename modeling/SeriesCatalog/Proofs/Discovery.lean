import SeriesCatalog.Proofs.Source
import SeriesCatalog.Table

/-! # Tables and what the store adds to them

A table is made of the metadata that is known of it, which a source may have completed before.
Whatever the store answers, the completed metadata keeps what was known.
-/

namespace SeriesCatalog

open ClickHouse

/-- The metadata after a source, if there is one, has completed it. -/
def TableMetadata.CompletedBy (m : TableMetadata) (asked : Option Source)
    (dataSource timestamp : String) (completed : TableMetadata) : Prop :=
  match asked with
  | .none => completed = m
  | .some source => source.Success dataSource timestamp m completed

namespace TableMetadata.CompletedBy

variable {m completed : TableMetadata} {asked : Option Source} {dataSource timestamp : String}

theorem keeps_column (done : m.CompletedBy asked dataSource timestamp completed) {column : String}
    {type : ScalarType} (known : m.columns.get? column = some type) :
    completed.columns.get? column = some type := by
  cases asked with
  | none =>
    cases done
    exact known
  | some source =>
    obtain ⟨row, columns, -, same⟩ := Source.Success.describes done
    rw [same]
    exact merge_keeps_column (TableEngine.parse row.engine row.full) columns timestamp known

theorem keeps_metric (done : m.CompletedBy asked dataSource timestamp completed) {metric : String}
    (known : metric ∈ m.metrics.toList) : metric ∈ completed.metrics.toList := by
  cases asked with
  | none =>
    cases done
    exact known
  | some source =>
    obtain ⟨row, columns, -, same⟩ := Source.Success.describes done
    rw [same]
    exact mem_merge_metrics.2 (.inl known)

theorem keeps_intervals (done : m.CompletedBy asked dataSource timestamp completed)
    {given : List Interval} (known : m.intervals = some given) :
    completed.intervals = some given := by
  cases asked with
  | none =>
    cases done
    exact known
  | some source => exact Source.Success.declared done known

end TableMetadata.CompletedBy

namespace Table

/-- A table is made for a named data source and canonical intervals, and of nothing but what is
given for it. -/
theorem create_ok_iff {owner dataSource : String} {columns : NameMap ScalarType}
    {metrics : NameSet} {timestamp : Option String} {intervals : Option (List Interval)}
    {t : Table} :
    create (some owner) dataSource columns metrics timestamp intervals = .ok t ↔
      dataSource ≠ "" ∧ (∀ i ∈ intervals.getD [Interval.default], i.isCanonical = true) ∧
        t = ⟨owner, dataSource, columns, metrics, timestamp.getD defaultTimestamp,
          intervals.getD [Interval.default]⟩ := by
  unfold create
  simp only
  split
  · rename_i unnamed
    simp [String.isEmpty_iff.1 unnamed]
  · rename_i named
    have named : dataSource ≠ "" := fun empty => named (String.isEmpty_iff.2 empty)
    split
    · rename_i i found
      have foreign := List.find?_some found
      have member := List.mem_of_find?_eq_some found
      simp only [reduceCtorEq, false_iff]
      rintro ⟨-, canonical, -⟩
      simp [canonical i member] at foreign
    · rename_i absent
      have canonical : ∀ i ∈ intervals.getD [Interval.default], i.isCanonical = true := by
        intro i member
        simpa using List.find?_eq_none.1 absent i member
      simp only [Except.ok.injEq]
      exact ⟨fun same => ⟨named, canonical, same.symm⟩, fun made => made.2.2.symm⟩

variable {dataSource : String} {metadata : TableMetadata} {timestamp : Option String}

theorem createDiscovered_failed {source : Source} {e : MetadataError} (owner : Option String)
    (failed : source.Failure dataSource (timestamp.getD defaultTimestamp) metadata e) :
    (createDiscovered owner dataSource metadata timestamp (some source)).2.result =
      .error (.metadata e) := by
  unfold createDiscovered
  dsimp only
  rw [Exchange.bind_result, Exchange.mapError_result, failed.result]
  rfl

theorem createDiscovered_completed {asked : Option Source} {completed : TableMetadata}
    (owner : Option String)
    (done : metadata.CompletedBy asked dataSource (timestamp.getD defaultTimestamp) completed) :
    (createDiscovered owner dataSource metadata timestamp asked).2.result =
      create owner dataSource completed.columns completed.metrics timestamp
        completed.intervals := by
  cases asked with
  | none =>
    cases done
    rfl
  | some source =>
    obtain ⟨same, finished⟩ := Source.Success.complete done
    unfold createDiscovered
    dsimp only
    rw [Exchange.bind_result, Exchange.mapError_result, finished, same]
    rfl

theorem failed_or_completed (asked : Option Source) (dataSource timestamp : String)
    (metadata : TableMetadata) :
    (∃ source e, asked = some source ∧ source.Failure dataSource timestamp metadata e) ∨
      ∃ completed, metadata.CompletedBy asked dataSource timestamp completed := by
  cases asked with
  | none => exact .inr ⟨metadata, rfl⟩
  | some source =>
    rcases source.failure_or_success dataSource timestamp metadata with ⟨e, failed⟩ | done
    · exact .inl ⟨source, e, rfl, failed⟩
    · exact .inr done

theorem createDiscovered_ok {owner : String} {asked : Option Source} {t : Table}
    (made : (createDiscovered (some owner) dataSource metadata timestamp asked).2.result = .ok t) :
    ∃ completed,
      metadata.CompletedBy asked dataSource (timestamp.getD defaultTimestamp) completed ∧
        create (some owner) dataSource completed.columns completed.metrics timestamp
          completed.intervals = .ok t := by
  rcases failed_or_completed asked dataSource (timestamp.getD defaultTimestamp) metadata with
    ⟨source, e, rfl, failed⟩ | ⟨completed, done⟩
  · rw [createDiscovered_failed _ failed] at made
    cases made
  · rw [createDiscovered_completed _ done] at made
    exact ⟨completed, done, made⟩

end Table

end SeriesCatalog
