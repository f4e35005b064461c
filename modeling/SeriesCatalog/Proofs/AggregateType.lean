import SeriesCatalog.Proofs.TypeExpression

/-! # Column types that keep an aggregate

Any text can be reported as a column type. It keeps an aggregate when some number of wrappers, each
on one line, enclose a text that starts like the type of an aggregate.
-/

namespace SeriesCatalog.ClickHouse

open Text

/-- Wrappers around an aggregate function, of which the state or the values are kept. -/
inductive KeepsAggregate : List Char → Prop where
  | state (rest : List Char) : KeepsAggregate ("AggregateFunction(".toList ++ rest)
  | values (rest : List Char) : KeepsAggregate ("SimpleAggregateFunction(".toList ++ rest)
  | nullable {inner : List Char} (oneLine : '\n' ∉ inner) (kept : KeepsAggregate inner) :
      KeepsAggregate ("Nullable(".toList ++ (inner ++ [')']))
  | lowCardinality {inner : List Char} (oneLine : '\n' ∉ inner) (kept : KeepsAggregate inner) :
      KeepsAggregate ("LowCardinality(".toList ++ (inner ++ [')']))

theorem unwrap_applied {name : String} (plain : '(' ∉ name.toList)
    (other : name.toList ∉ ["Nullable".toList, "LowCardinality".toList]) (rest : List Char) :
    unwrap (name.toList ++ ['('] ++ rest) = name.toList ++ ['('] ++ rest := by
  simp only [List.mem_cons, List.not_mem_nil, not_or, or_false] at other
  apply unwrap_of_none
  apply unwrapOnce?_headName
  · rw [headName_append plain]
    exact other.1
  · rw [headName_append plain]
    exact other.2

theorem keepsAggregate_iff {text : List Char} :
    KeepsAggregate text ↔ "AggregateFunction(".toList <+: unwrap text ∨
      "SimpleAggregateFunction(".toList <+: unwrap text := by
  constructor
  · intro kept
    induction kept with
    | state rest =>
      have lead : "AggregateFunction(".toList = "AggregateFunction".toList ++ ['('] := by simp
      rw [lead, unwrap_applied (by simp) (by simp)]
      exact .inl (List.prefix_append _ _)
    | values rest =>
      rw [TypeExpr.aggregateLead_eq, unwrap_applied (by simp) (by simp)]
      exact .inr (List.prefix_append _ _)
    | nullable oneLine _ ih => rwa [unwrap_of_some (unwrapOnce?_eq_some_iff.2 ⟨oneLine, .inl rfl⟩)]
    | lowCardinality oneLine _ ih =>
      rwa [unwrap_of_some (unwrapOnce?_eq_some_iff.2 ⟨oneLine, .inr rfl⟩)]
  · intro starts
    fun_induction unwrap text with
    | case1 text inner found ih =>
      obtain ⟨oneLine, rfl | rfl⟩ := unwrapOnce?_eq_some_iff.1 found
      · exact .nullable oneLine (ih starts)
      · exact .lowCardinality oneLine (ih starts)
    | case2 text =>
      rcases starts with ⟨rest, rfl⟩ | ⟨rest, rfl⟩
      · exact .state rest
      · exact .values rest

theorem isAggregateType_iff {type : String} :
    isAggregateType type = true ↔ KeepsAggregate (trim type.toList) := by
  simp only [isAggregateType, Bool.or_eq_true, dropLead?_isSome_iff, keepsAggregate_iff]

end SeriesCatalog.ClickHouse
