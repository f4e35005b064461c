import SeriesCatalog.Proofs.Calls
import SeriesCatalog.Proofs.QuotedNames
import SeriesCatalog.Proofs.Source

/-! # The bounds query as a template

The names in the bounds query are quoted as identifiers, and then the whole text is read as a
template, in which question marks have a meaning of their own. Quoting leaves question marks as they
are. A template stands for at most half as many question marks as it has, so the text that is sent
is the one that was written exactly if no name has a question mark.
-/

namespace SeriesCatalog

open ClickHouse

namespace ClickHouse

theorem expandTemplate?_append {text : List Char} (absent : '?' ∉ text) (rest : List Char) :
    expandTemplate? (text ++ rest) = (expandTemplate? rest).map (text ++ ·) := by
  induction text with
  | nil => simp only [List.nil_append, Option.map_id']
  | cons c text ih =>
    obtain ⟨other, later⟩ := not_or.1 (mt List.mem_cons.2 absent)
    have plain : c ≠ '?' := fun same => other same.symm
    rw [List.cons_append, expandTemplate?, if_neg plain, ih later, Option.map_map]
    · rfl
    · rintro _ rfl
      exact absurd rfl plain
    · rintro _ rfl
      exact absurd rfl plain

theorem boundsFields_unmarked : boundsFields.count '?' = 0 := by
  decide

/-- Each question mark of what a template stands for is a doubled one of the template. -/
theorem expandTemplate?_marks {text expanded : List Char}
    (expands : expandTemplate? text = some expanded) :
    2 * expanded.count '?' ≤ text.count '?' := by
  induction text using expandTemplate?.induct generalizing expanded with
  | case1 rest ih =>
    rw [expandTemplate?] at expands
    obtain ⟨others, below, rfl⟩ := Option.map_eq_some_iff.1 expands
    have marks := ih below
    simp only [List.count_cons_self]
    omega
  | case2 rest ih =>
    rw [expandTemplate?] at expands
    obtain ⟨others, below, rfl⟩ := Option.map_eq_some_iff.1 expands
    have marks := ih below
    have more : rest.count '?' ≤
        ('?' :: 'f' :: 'i' :: 'e' :: 'l' :: 'd' :: 's' :: rest).count '?' :=
      (List.suffix_append ['?', 'f', 'i', 'e', 'l', 'd', 's'] rest).sublist.count_le '?'
    rw [List.count_append, boundsFields_unmarked]
    omega
  | case3 rest double fields =>
    rw [expandTemplate?, if_pos rfl] at expands
    · cases expands
    · exact double
    · exact fields
  | case4 c rest double fields plain ih =>
    rw [expandTemplate?, if_neg plain] at expands
    · obtain ⟨others, below, rfl⟩ := Option.map_eq_some_iff.1 expands
      rw [List.count_cons_of_ne plain, List.count_cons_of_ne plain]
      exact ih below
    · exact double
    · exact fields
  | case5 =>
    cases expands
    exact Nat.le_refl _

theorem expandTemplate?_eq_self_iff {text : List Char} :
    expandTemplate? text = some text ↔ '?' ∉ text := by
  constructor
  · intro same
    have marks := expandTemplate?_marks same
    exact List.count_eq_zero.1 (by omega)
  · intro absent
    have whole := expandTemplate?_append absent []
    rw [List.append_nil, expandTemplate?, Option.map_some, List.append_nil] at whole
    exact whole

theorem mem_quoteIdentifier {c : Char} (other : c ≠ '`') {name : String} :
    c ∈ (quoteIdentifier name).toList ↔ c ∈ name.toList := by
  rw [← List.count_pos_iff, count_quoteIdentifier other, List.count_pos_iff]

theorem mem_boundsText {database table column : String} :
    '?' ∈ (boundsText database table column).toList ↔
      '?' ∈ database.toList ∨ '?' ∈ table.toList ∨ '?' ∈ column.toList := by
  have quoted := fun name => @mem_quoteIdentifier '?' (by decide) name
  have select : '?' ∉
      "SELECT count() AS row_count, toUnixTimestamp64Milli(toDateTime64(min(".toList := by decide
  have least : '?' ∉ "), 3)) AS min_ms, toUnixTimestamp64Milli(toDateTime64(max(".toList := by
    decide
  have greatest : '?' ∉ "), 3)) AS max_ms FROM ".toList := by decide
  have dot : '?' ∉ ".".toList := by decide
  delta boundsText
  simp only [String.toList_append, List.mem_append, quoted, select, least, greatest, dot,
    false_or, or_false, or_assoc]
  constructor
  · rintro (column | column | database | table)
    · exact .inr (.inr column)
    · exact .inr (.inr column)
    · exact .inl database
    · exact .inr (.inl table)
  · rintro (database | table | column)
    · exact .inr (.inr (.inl database))
    · exact .inr (.inr (.inr table))
    · exact .inl column

/-- The bounds query is sent as it is written exactly if no name in it has a question mark. -/
theorem Query.bounds_sent_iff {database table column : String} :
    (Query.bounds database table column).sent? = some (boundsText database table column) ↔
      '?' ∉ database.toList ∧ '?' ∉ table.toList ∧ '?' ∉ column.toList := by
  rw [← not_or, ← not_or, ← mem_boundsText, ← expandTemplate?_eq_self_iff, Query.sent?,
    Option.map_eq_some_iff]
  constructor
  · rintro ⟨expanded, expands, same⟩
    rw [expands, ← same, String.toList_ofList]
  · intro same
    exact ⟨_, same, String.ofList_toList⟩

/-- The name of the table comes last, so that only its question marks matter if the other names have
none. -/
theorem Query.bounds_sent_table {database column : String} (plain : '?' ∉ database.toList)
    (plainColumn : '?' ∉ column.toList) :
    ∃ start : String, (∀ table, boundsText database table column = start ++ quoteIdentifier table) ∧
      ∀ table, (Query.bounds database table column).sent? =
        (expandTemplate? (quoteIdentifier table).toList).map (start ++ String.ofList ·) := by
  obtain ⟨start, written⟩ : ∃ start : String,
      ∀ table, boundsText database table column = start ++ quoteIdentifier table :=
    ⟨_, fun _ => rfl⟩
  have absent : '?' ∉ start.toList := by
    intro mark
    have marked : '?' ∈ (boundsText database "" column).toList := by
      rw [written, String.toList_append]
      exact List.mem_append_left _ mark
    rcases mem_boundsText.1 marked with other | other | other
    · exact plain other
    · cases other
    · exact plainColumn other
  refine ⟨start, written, fun table => ?_⟩
  rw [Query.sent?, written, String.toList_append, expandTemplate?_append absent, Option.map_map]
  congr 1
  funext expanded
  rw [Function.comp_apply, String.ofList_append, String.ofList_toList]

end ClickHouse

theorem Store.ask_queries {α : Type} (query : Query) {answer : Except QueryFailure α}
    (answered : ∀ e, answer = .error e → e.isAnswer = true) :
    (Store.ask query answer).queries = query.sent?.toList := by
  unfold Store.ask
  cases query.sent? with
  | none => rfl
  | some text =>
    cases answer with
    | ok a => rfl
    | error e =>
      simp only [answered e rfl, if_true]
      rfl

namespace Source

variable {s : Source} {dataSource timestamp : String}

theorem timeBounds_queries
    (answered : ∀ e, s.store.bounds dataSource timestamp = .error e → e.isAnswer = true) :
    (s.timeBounds dataSource timestamp).queries =
      (Query.bounds s.database dataSource timestamp).sent?.toList := by
  unfold timeBounds
  generalize Query.bounds s.database dataSource timestamp = query
  refine (Exchange.bind_queries_quiet fun row _ => ?_).trans (Store.ask_queries query answered)
  cases observedInterval row.rows row.min row.max <;> rfl

/-- A server that answers receives the bounds query as it was written exactly if no name in it has
a question mark. With one, the server receives another text, or none and the request fails. -/
theorem timeBounds_sent_as_written_iff
    (answered : ∀ e, s.store.bounds dataSource timestamp = .error e → e.isAnswer = true) :
    ((s.timeBounds dataSource timestamp).queries = [boundsText s.database dataSource timestamp] ↔
      '?' ∉ s.database.toList ∧ '?' ∉ dataSource.toList ∧ '?' ∉ timestamp.toList) ∧
    ((s.timeBounds dataSource timestamp).queries ≠ [boundsText s.database dataSource timestamp] →
      ((s.timeBounds dataSource timestamp).queries = [] ∧
        (s.timeBounds dataSource timestamp).result = .error (.query dataSource .unboundArgument)) ∨
      ∃ text, text ≠ boundsText s.database dataSource timestamp ∧
        (s.timeBounds dataSource timestamp).queries = [text]) := by
  rw [timeBounds_queries answered]
  constructor
  · rw [← Query.bounds_sent_iff]
    cases sent : (Query.bounds s.database dataSource timestamp).sent? with
    | none => simp
    | some text => simp
  · intro different
    cases sent : (Query.bounds s.database dataSource timestamp).sent? with
    | none => exact .inl ⟨rfl, timeBounds_unsent sent⟩
    | some text =>
      refine .inr ⟨text, fun same => different ?_, rfl⟩
      rw [sent, same]
      rfl

theorem sales_bounds_sent :
    (∀ e, Store.sales.bounds "sales" "ts" = .error e → e.isAnswer = true) ∧
      (Source.timeBounds ⟨"default", .sales⟩ "sales" "ts").queries =
        [boundsText "default" "sales" "ts"] := by
  have answered : ∀ e, Store.sales.bounds "sales" "ts" = .error e → e.isAnswer = true := nofun
  have sent := @timeBounds_sent_as_written_iff ⟨"default", .sales⟩ "sales" "ts" answered
  exact ⟨answered, sent.1.2 ⟨by decide, by decide, by decide⟩⟩

/-- One question mark in the name of a table withholds the query, and two of them in a row ask about
another table. -/
theorem question_marks_mislead_bounds :
    (Source.timeBounds ⟨"default", .sales⟩ "a?b" "ts").queries = [] ∧
    (Source.timeBounds ⟨"default", .sales⟩ "a??b" "ts").queries =
      [boundsText "default" "a?b" "ts"] ∧
    boundsText "default" "a?b" "ts" ≠ boundsText "default" "a??b" "ts" := by
  obtain ⟨start, written, sent⟩ :=
    @Query.bounds_sent_table "default" "ts" (by decide) (by decide)
  have answered : ∀ (dataSource : String) (e : QueryFailure),
      Store.sales.bounds dataSource "ts" = .error e → e.isAnswer = true := nofun
  rw [timeBounds_queries (answered _), timeBounds_queries (answered _), sent, sent, written,
    written]
  refine ⟨?_, ?_, fun same => ?_⟩
  · have unbound : expandTemplate? (quoteIdentifier "a?b").toList = none := by decide
    rw [unbound]
    rfl
  · have halved : expandTemplate? (quoteIdentifier "a??b").toList =
        some (quoteIdentifier "a?b").toList := by decide
    rw [halved, Option.map_some, String.ofList_toList]
    rfl
  · have lists := congrArg String.toList same
    rw [String.toList_append, String.toList_append] at lists
    exact absurd (List.append_cancel_left lists) (by decide)

end Source

end SeriesCatalog
