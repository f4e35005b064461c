import SeriesCatalog.Proofs.Interval
import SeriesCatalog.Proofs.Metadata
import SeriesCatalog.Proofs.Outcome

/-! # What becomes of metadata at a source

A request for metadata asks for the engine, then for the columns, and for the bounds only if the
intervals are still open. It fails at one of six places or completes the metadata in one of two
ways, and the answers of the store decide which.
-/

namespace SeriesCatalog

open ClickHouse

theorem Interval.ofMillis_canonical {start stop : Int} {i : Interval}
    (made : Interval.ofMillis start stop = .ok i) : i.isCanonical = true := by
  unfold Interval.ofMillis at made
  dsimp only at made
  split at made
  · cases made
  · split at made
    · cases made
    · obtain ⟨sameStart, sameStop⟩ := Interval.new_ok made
      exact Interval.isCanonical_iff.2 ⟨by rw [sameStart], by rw [sameStop]⟩

theorem observedInterval_canonical {rows : Nat} {min max : Int} {i : Interval}
    (observed : observedInterval rows min max = .ok (some i)) : i.isCanonical = true := by
  unfold observedInterval at observed
  split at observed
  · cases observed
  · obtain ⟨found, made, same⟩ := Outcome.map_eq_ok observed
    cases same
    exact Interval.ofMillis_canonical made

theorem observedInterval_none_iff {rows : Nat} {min max : Int} :
    observedInterval rows min max = .ok none ↔ rows = 0 := by
  unfold observedInterval
  split
  · rename_i empty
    exact ⟨fun _ => empty, fun _ => rfl⟩
  · rename_i filled
    refine ⟨fun observed => ?_, fun empty => absurd empty filled⟩
    obtain ⟨found, -, same⟩ := Outcome.map_eq_ok observed
    cases same

namespace Source

theorem engine_result (s : Source) (dataSource : String) :
    (s.engine dataSource).result =
      match s.store.engine dataSource with
      | .error failure => .error (.query dataSource failure)
      | .ok none => .error (.unknownDataSource dataSource)
      | .ok (some row) => .ok (TableEngine.parse row.engine row.full) := by
  refine (Exchange.bind_result _ _).trans ?_
  change ((Store.ask _ _).result.mapError _).bind _ = _
  rw [Store.ask_sent rfl]
  cases s.store.engine dataSource with
  | error failure => rfl
  | ok row => cases row <;> rfl

theorem columns_result (s : Source) (dataSource : String) :
    (s.columns dataSource).result =
      (s.store.columns dataSource).mapError (.query dataSource) := by
  change (Store.ask _ _).result.mapError _ = _
  rw [Store.ask_sent rfl]

theorem timeBounds_sent {s : Source} {dataSource timestamp text : String}
    (sent : (Query.bounds s.database dataSource timestamp).sent? = some text) :
    (s.timeBounds dataSource timestamp).result =
      match s.store.bounds dataSource timestamp with
      | .error failure => .error (.query dataSource failure)
      | .ok row => (observedInterval row.rows row.min row.max).mapError (.invalid dataSource) := by
  unfold timeBounds
  refine (Exchange.bind_result _ _).trans ?_
  rw [Exchange.mapError_result, Store.ask_sent sent]
  cases s.store.bounds dataSource timestamp with
  | error failure => rfl
  | ok row =>
    simp only [Outcome.mapError_ok, Except.bind]
    cases observedInterval row.rows row.min row.max <;> rfl

theorem timeBounds_unsent {s : Source} {dataSource timestamp : String}
    (unsent : (Query.bounds s.database dataSource timestamp).sent? = none) :
    (s.timeBounds dataSource timestamp).result = .error (.query dataSource .unboundArgument) := by
  unfold timeBounds
  refine (Exchange.bind_result _ _).trans ?_
  rw [Exchange.mapError_result, Store.ask_unsent unsent]
  rfl

/-- The store has the table, with these columns. -/
structure Describes (s : Source) (dataSource : String) (row : EngineRow)
    (columns : List ReportedColumn) : Prop where
  engine : s.store.engine dataSource = .ok (some row)
  columns : s.store.columns dataSource = .ok columns

theorem describe_result (s : Source) (dataSource : String) :
    (s.describe dataSource).result =
      (s.engine dataSource).result.bind fun engine =>
        (s.columns dataSource).result.map fun columns => (engine, columns) := by
  refine (Exchange.bind_result _ _).trans ?_
  congr 1
  funext engine
  refine (Exchange.bind_result _ _).trans ?_
  cases (s.columns dataSource).result <;> rfl

theorem Describes.result {s : Source} {dataSource : String} {row : EngineRow}
    {columns : List ReportedColumn} (d : s.Describes dataSource row columns) :
    (s.describe dataSource).result = .ok (TableEngine.parse row.engine row.full, columns) := by
  rw [describe_result, engine_result, d.engine, columns_result, d.columns]
  rfl

/-- Why a source fails to complete metadata: one constructor for each place where it can. -/
inductive Failure (s : Source) (dataSource timestamp : String) (metadata : TableMetadata) :
    MetadataError → Prop where
  | engine {failure : QueryFailure} :
      s.store.engine dataSource = .error failure →
      Failure s dataSource timestamp metadata (.query dataSource failure)
  | unknown :
      s.store.engine dataSource = .ok none →
      Failure s dataSource timestamp metadata (.unknownDataSource dataSource)
  | columns {row : EngineRow} {failure : QueryFailure} :
      s.store.engine dataSource = .ok (some row) →
      s.store.columns dataSource = .error failure →
      Failure s dataSource timestamp metadata (.query dataSource failure)
  | unsendable {row : EngineRow} {columns : List ReportedColumn} :
      s.Describes dataSource row columns → metadata.needsBounds columns timestamp = true →
      (Query.bounds s.database dataSource timestamp).sent? = none →
      Failure s dataSource timestamp metadata (.query dataSource .unboundArgument)
  | bounds {row : EngineRow} {columns : List ReportedColumn} {text : String}
      {failure : QueryFailure} :
      s.Describes dataSource row columns → metadata.needsBounds columns timestamp = true →
      (Query.bounds s.database dataSource timestamp).sent? = some text →
      s.store.bounds dataSource timestamp = .error failure →
      Failure s dataSource timestamp metadata (.query dataSource failure)
  | rejected {row : EngineRow} {columns : List ReportedColumn} {text : String}
      {bounds : BoundsRow} {e : IntervalError} :
      s.Describes dataSource row columns → metadata.needsBounds columns timestamp = true →
      (Query.bounds s.database dataSource timestamp).sent? = some text →
      s.store.bounds dataSource timestamp = .ok bounds →
      observedInterval bounds.rows bounds.min bounds.max = .error e →
      Failure s dataSource timestamp metadata (.invalid dataSource e)

/-- What metadata a source makes of the given one, when it does not fail. -/
inductive Success (s : Source) (dataSource timestamp : String) (metadata : TableMetadata) :
    TableMetadata → Prop where
  | merged {row : EngineRow} {columns : List ReportedColumn} :
      s.Describes dataSource row columns → metadata.needsBounds columns timestamp = false →
      Success s dataSource timestamp metadata
        (metadata.merge (TableEngine.parse row.engine row.full) columns timestamp)
  | bounded {row : EngineRow} {columns : List ReportedColumn} {text : String}
      {bounds : BoundsRow} {observed : Option Interval} :
      s.Describes dataSource row columns → metadata.needsBounds columns timestamp = true →
      (Query.bounds s.database dataSource timestamp).sent? = some text →
      s.store.bounds dataSource timestamp = .ok bounds →
      observedInterval bounds.rows bounds.min bounds.max = .ok observed →
      Success s dataSource timestamp metadata
        { metadata.merge (TableEngine.parse row.engine row.full) columns timestamp with
          intervals := observed.map ([·]) }

variable {s : Source} {dataSource timestamp : String} {metadata : TableMetadata}

/-- The answers of the store lead to a failure or to a success. -/
theorem failure_or_success (s : Source) (dataSource timestamp : String)
    (metadata : TableMetadata) :
    (∃ e, s.Failure dataSource timestamp metadata e) ∨
      ∃ completed, s.Success dataSource timestamp metadata completed := by
  -- The answers are looked at in the order in which the request asks for them.
  cases engine : s.store.engine dataSource with
  | error failure => exact .inl ⟨_, .engine engine⟩
  | ok answer =>
  cases answer with
  | none => exact .inl ⟨_, .unknown engine⟩
  | some row =>
  cases found : s.store.columns dataSource with
  | error failure => exact .inl ⟨_, .columns engine found⟩
  | ok columns =>
  have described : s.Describes dataSource row columns := ⟨engine, found⟩
  cases wanted : metadata.needsBounds columns timestamp with
  | false => exact .inr ⟨_, .merged described wanted⟩
  | true =>
  cases sent : (Query.bounds s.database dataSource timestamp).sent? with
  | none => exact .inl ⟨_, .unsendable described wanted sent⟩
  | some text =>
  cases answered : s.store.bounds dataSource timestamp with
  | error failure => exact .inl ⟨_, .bounds described wanted sent answered⟩
  | ok bounds =>
  cases observed : observedInterval bounds.rows bounds.min bounds.max with
  | error e => exact .inl ⟨_, .rejected described wanted sent answered observed⟩
  | ok interval => exact .inr ⟨_, .bounded described wanted sent answered observed⟩

theorem complete_undescribed {e : MetadataError}
    (failed : (s.describe dataSource).result = .error e) :
    s.complete dataSource timestamp metadata =
      (metadata, ⟨(s.describe dataSource).queries, .error e⟩) := by
  unfold complete
  dsimp only
  rw [failed]

theorem complete_unbounded {row : EngineRow} {columns : List ReportedColumn}
    (described : s.Describes dataSource row columns)
    (unwanted : metadata.needsBounds columns timestamp = false) :
    s.complete dataSource timestamp metadata =
      (metadata.merge (TableEngine.parse row.engine row.full) columns timestamp,
        ⟨(s.describe dataSource).queries, .ok ()⟩) := by
  unfold complete
  dsimp only
  rw [described.result]
  simp only [unwanted, Bool.false_eq_true, if_false]

theorem complete_bounded {row : EngineRow} {columns : List ReportedColumn}
    (described : s.Describes dataSource row columns)
    (wanted : metadata.needsBounds columns timestamp = true) :
    s.complete dataSource timestamp metadata =
      let merged := metadata.merge (TableEngine.parse row.engine row.full) columns timestamp
      let bounds := s.timeBounds dataSource timestamp
      let queries := (s.describe dataSource).queries ++ bounds.queries
      match bounds.result with
      | .error e => (merged, ⟨queries, .error e⟩)
      | .ok observed =>
        ({ merged with intervals := observed.map ([·]) }, ⟨queries, .ok ()⟩) := by
  have unknown : metadata.intervals = none :=
    Option.isNone_iff_eq_none.1 (Bool.and_eq_true_iff.1 wanted).1
  unfold complete
  dsimp only
  rw [described.result]
  simp only [wanted, if_true]
  cases (s.timeBounds dataSource timestamp).result with
  | error e => rfl
  | ok observed =>
    cases observed with
    | none =>
      -- Bounds are asked for only when no intervals are known, so none is what there was.
      have same : (metadata.merge (TableEngine.parse row.engine row.full) columns
          timestamp).intervals = none := unknown
      simp only [Option.map_none, ← same]
    | some interval => rfl

theorem Failure.result {e : MetadataError} (failed : s.Failure dataSource timestamp metadata e) :
    (s.complete dataSource timestamp metadata).2.result = .error e := by
  cases failed with
  | engine answered | unknown answered =>
    rw [complete_undescribed]
    rw [describe_result, engine_result, answered]
    rfl
  | columns found answered =>
    rw [complete_undescribed]
    rw [describe_result, engine_result, found, columns_result, answered]
    rfl
  | unsendable described wanted unsent =>
    rw [complete_bounded described wanted]
    simp only [timeBounds_unsent unsent]
  | bounds described wanted sent answered =>
    rw [complete_bounded described wanted]
    simp only [timeBounds_sent sent, answered]
  | rejected described wanted sent answered observed =>
    rw [complete_bounded described wanted]
    simp only [timeBounds_sent sent, answered, observed, Outcome.mapError_error]

theorem Success.complete {completed : TableMetadata}
    (done : s.Success dataSource timestamp metadata completed) :
    (s.complete dataSource timestamp metadata).1 = completed ∧
      (s.complete dataSource timestamp metadata).2.result = .ok () := by
  cases done with
  | merged described unwanted =>
    rw [complete_unbounded described unwanted]
    exact ⟨rfl, rfl⟩
  | bounded described wanted sent answered observed =>
    rw [complete_bounded described wanted]
    simp only [timeBounds_sent sent, answered, observed, Outcome.mapError_ok, and_self]

theorem complete_error_iff {e : MetadataError} :
    (s.complete dataSource timestamp metadata).2.result = .error e ↔
      s.Failure dataSource timestamp metadata e := by
  refine ⟨fun failed => ?_, Failure.result⟩
  rcases failure_or_success s dataSource timestamp metadata with ⟨other, failure⟩ | ⟨_, success⟩
  · rw [failure.result] at failed
    cases failed
    exact failure
  · rw [success.complete.2] at failed
    cases failed

theorem complete_ok_iff {completed : TableMetadata} :
    ((s.complete dataSource timestamp metadata).1 = completed ∧
      (s.complete dataSource timestamp metadata).2.result = .ok ()) ↔
      s.Success dataSource timestamp metadata completed := by
  refine ⟨fun ⟨same, finished⟩ => ?_, Success.complete⟩
  rcases failure_or_success s dataSource timestamp metadata with ⟨_, failure⟩ | ⟨other, success⟩
  · rw [failure.result] at finished
    cases finished
  · rw [success.complete.1] at same
    exact same ▸ success

/-- The source reports the timestamp column of a table and rows between two times in it. -/
def Observes (s : Source) (dataSource timestamp : String) (bounds : BoundsRow) : Prop :=
  ∃ columns, s.store.columns dataSource = .ok columns ∧ Reports columns timestamp ∧
    s.store.bounds dataSource timestamp = .ok bounds ∧ bounds.rows ≠ 0

namespace Success

variable {completed : TableMetadata}

theorem describes (done : s.Success dataSource timestamp metadata completed) :
    ∃ row columns, s.Describes dataSource row columns ∧
      completed = { metadata.merge (TableEngine.parse row.engine row.full) columns timestamp with
        intervals := completed.intervals } := by
  cases done with
  | merged described => exact ⟨_, _, described, rfl⟩
  | bounded described => exact ⟨_, _, described, rfl⟩

theorem declared (done : s.Success dataSource timestamp metadata completed)
    {given : List Interval} (known : metadata.intervals = some given) :
    completed.intervals = some given := by
  cases done with
  | merged => exact known
  | bounded _ wanted =>
    obtain ⟨unknown, -⟩ := TableMetadata.needsBounds_iff.1 wanted
    rw [unknown] at known
    cases known

theorem observed (done : s.Success dataSource timestamp metadata completed)
    (unknown : metadata.intervals = none) {bounds : BoundsRow}
    (seen : s.Observes dataSource timestamp bounds) :
    ∃ i, observedInterval bounds.rows bounds.min bounds.max = .ok (some i) ∧
      completed.intervals = some [i] := by
  obtain ⟨columns, found, reported, answered, filled⟩ := seen
  cases done with
  | merged described unwanted =>
    -- The timestamp is reported and no intervals are known: the bounds would have been asked for.
    have same := described.columns.symm.trans found
    cases same
    rw [TableMetadata.needsBounds_iff.2 ⟨unknown, reported⟩] at unwanted
    cases unwanted
  | @bounded _ _ _ _ interval _ _ _ answer made =>
    have same := answer.symm.trans answered
    cases same
    cases interval with
    | none => exact absurd (observedInterval_none_iff.1 made) filled
    | some i => exact ⟨i, made, rfl⟩

theorem unobserved (done : s.Success dataSource timestamp metadata completed)
    (unknown : metadata.intervals = none)
    (unseen : ∀ bounds, ¬ s.Observes dataSource timestamp bounds) : completed.intervals = none := by
  cases done with
  | merged => exact unknown
  | @bounded _ columns _ bounds interval described wanted _ answered made =>
    obtain ⟨-, reported⟩ := TableMetadata.needsBounds_iff.1 wanted
    have empty : bounds.rows = 0 := by
      by_cases empty : bounds.rows = 0
      · exact empty
      · exact absurd ⟨columns, described.columns, reported, answered, empty⟩ (unseen bounds)
    rw [observedInterval_none_iff.2 empty] at made
    cases made
    rfl

theorem canonical (done : s.Success dataSource timestamp metadata completed)
    (unknown : metadata.intervals = none) {i : Interval} {intervals : List Interval}
    (added : completed.intervals = some intervals) (member : i ∈ intervals) :
    i.isCanonical = true := by
  cases done with
  | merged =>
    have none : metadata.intervals = some intervals := added
    rw [unknown] at none
    cases none
  | bounded _ _ _ _ made =>
    obtain ⟨interval, rfl, rfl⟩ := Option.map_eq_some_iff.1 added
    rw [List.mem_singleton.1 member]
    exact observedInterval_canonical made

end Success

/-- The queries of a request about a table, in the order in which they are sent. -/
def plannedQueries (s : Source) (dataSource timestamp : String) : List String :=
  [Query.engine s.database dataSource, .columns s.database dataSource,
    .bounds s.database dataSource timestamp].flatMap fun query => query.sent?.toList

theorem engine_inTurn (s : Source) (dataSource : String) :
    (s.engine dataSource).AsksInTurn (Query.engine s.database dataSource).sent?.toList := by
  refine .bind_quiet (.mapError (Store.ask_inTurn _ _) _) fun row => ?_
  cases row <;> rfl

theorem columns_inTurn (s : Source) (dataSource : String) :
    (s.columns dataSource).AsksInTurn (Query.columns s.database dataSource).sent?.toList :=
  .mapError (Store.ask_inTurn _ _) _

theorem describe_inTurn (s : Source) (dataSource : String) :
    (s.describe dataSource).AsksInTurn
      ((Query.engine s.database dataSource).sent?.toList ++
        (Query.columns s.database dataSource).sent?.toList) := by
  refine .bind (s.engine_inTurn dataSource) fun _ => ?_
  exact .bind_quiet (s.columns_inTurn dataSource) fun _ => rfl

theorem timeBounds_inTurn (s : Source) (dataSource timestamp : String) :
    (s.timeBounds dataSource timestamp).AsksInTurn
      (Query.bounds s.database dataSource timestamp).sent?.toList := by
  unfold timeBounds
  -- The text of the query is long, so that it must not be computed here.
  generalize Query.bounds s.database dataSource timestamp = query
  refine .bind_quiet (.mapError (Store.ask_inTurn _ _) _) fun row => ?_
  cases observedInterval row.rows row.min row.max <;> rfl

/-- However the request ends, the queries that it sent are the first of the planned ones. -/
theorem complete_queries (s : Source) (dataSource timestamp : String) (metadata : TableMetadata) :
    (s.complete dataSource timestamp metadata).2.queries <+:
      s.plannedQueries dataSource timestamp := by
  have describes := s.describe_inTurn dataSource
  have bounds := s.timeBounds_inTurn dataSource timestamp
  simp only [plannedQueries, List.flatMap_cons, List.flatMap_nil, List.append_nil,
    ← List.append_assoc]
  unfold complete
  dsimp only
  cases described : (s.describe dataSource).result with
  | error e => exact describes.isPrefix.trans (List.prefix_append _ _)
  | ok report =>
    dsimp only
    split
    · rw [describes.complete report described]
      split <;> exact (List.prefix_append_right_inj _).2 bounds.isPrefix
    · exact describes.isPrefix.trans (List.prefix_append _ _)

end Source

end SeriesCatalog
