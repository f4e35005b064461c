import SeriesCatalog.ClickHouse.ColumnType
import SeriesCatalog.Proofs.Trimming

/-! # Column types as expressions

A column type is a leaf inside any number of wrappers. Reading the text of such an expression finds
the leaf again, however the leaf's arguments look: each wrapper is closed by the last parenthesis of
what it encloses, and no leaf has the name of a wrapper.
-/

namespace SeriesCatalog.ClickHouse

open Text

def headName (text : List Char) : List Char :=
  text.takeWhile (· != '(')

def applied (name arguments : String) : String :=
  name ++ "(" ++ arguments ++ ")"

/-- A type without a wrapper. Its arguments are any text, that of a wrapped type included. -/
structure Leaf where
  text : String
  oneLine : '\n' ∉ text.toList
  trimmed : IsTrimmed text.toList
  unwrapped : headName text.toList ∉
    ["Nullable".toList, "LowCardinality".toList, "SimpleAggregateFunction".toList]

/-- The name that decides about the scalar type. -/
def Leaf.name (l : Leaf) : String :=
  String.ofList (headName l.text.toList)

/-- The function of a simple aggregate, with arguments of its own as long as they need no comma. -/
structure FunctionText where
  text : String
  nonempty : text ≠ ""
  noComma : ',' ∉ text.toList
  oneLine : '\n' ∉ text.toList
  trimmed : IsTrimmed text.toList

inductive TypeExpr where
  | leaf (leaf : Leaf)
  | nullable (inner : TypeExpr)
  | lowCardinality (inner : TypeExpr)
  | simpleAggregate (function : FunctionText) (inner : TypeExpr)

namespace TypeExpr

def text : TypeExpr → String
  | leaf l => l.text
  | nullable e => applied "Nullable" e.text
  | lowCardinality e => applied "LowCardinality" e.text
  | simpleAggregate f e => applied "SimpleAggregateFunction" (f.text ++ ", " ++ e.text)

def innermost : TypeExpr → Leaf
  | leaf l => l
  | nullable e | lowCardinality e | simpleAggregate _ e => e.innermost

/-- The type inside the outer wrappers that do not aggregate. -/
def bare : TypeExpr → TypeExpr
  | nullable e | lowCardinality e => e.bare
  | leaf l => leaf l
  | simpleAggregate f e => simpleAggregate f e

end TypeExpr

theorem dropLast?_eq_some_iff {c : Char} {text rest : List Char} :
    dropLast? c text = some rest ↔ text = rest ++ [c] := by
  constructor
  · intro dropped
    unfold dropLast? at dropped
    split at dropped
    · rename_i last
      cases dropped
      exact (List.dropLast_append_getLast? c last).symm
    · cases dropped
  · rintro rfl
    simp [dropLast?]

theorem enclosed?_eq_some_iff {lead text inner : List Char} :
    enclosed? lead text = some inner ↔ text = lead ++ (inner ++ [')']) ∧ '\n' ∉ inner := by
  simp only [enclosed?, Option.bind_eq_bind, Option.bind_eq_some_iff, dropLead?_eq_some_iff,
    dropLast?_eq_some_iff]
  constructor
  · rintro ⟨rest, led, found, closed, kept⟩
    split at kept
    · cases kept
    · rename_i oneLine
      cases kept
      exact ⟨by rw [led, closed], oneLine⟩
  · rintro ⟨whole, oneLine⟩
    exact ⟨_, whole, inner, rfl, if_neg oneLine⟩

theorem unwrapOnce?_eq_some_iff {text inner : List Char} :
    unwrapOnce? text = some inner ↔ '\n' ∉ inner ∧
      (text = "Nullable(".toList ++ (inner ++ [')']) ∨
        text = "LowCardinality(".toList ++ (inner ++ [')'])) := by
  have distinct (rest : List Char) :
      enclosed? "Nullable(".toList ("LowCardinality(".toList ++ rest) = none := by
    simp [enclosed?, dropLead?]
  simp only [unwrapOnce?, Option.orElse_eq_orElse, Option.orElse_eq_or, Option.or_eq_some_iff,
    enclosed?_eq_some_iff]
  constructor
  · rintro (⟨whole, oneLine⟩ | ⟨-, whole, oneLine⟩)
    · exact ⟨oneLine, .inl whole⟩
    · exact ⟨oneLine, .inr whole⟩
  · rintro ⟨oneLine, whole | whole⟩
    · exact .inl ⟨whole, oneLine⟩
    · exact .inr ⟨by rw [whole, distinct], whole, oneLine⟩

section Applied

variable {name text : List Char} {arguments : String}

theorem toList_applied (name arguments : String) :
    (applied name arguments).toList = name.toList ++ ['('] ++ arguments.toList ++ [')'] := by
  simp [applied]

theorem oneLine_applied {name : String} (nameLine : '\n' ∉ name.toList)
    (argumentsLine : '\n' ∉ arguments.toList) : '\n' ∉ (applied name arguments).toList := by
  simp [toList_applied, nameLine, argumentsLine]

theorem isTrimmed_applied {name : String} {first : Char} (opens : name.toList.head? = some first)
    (visible : isBlank first = false) (arguments : String) :
    IsTrimmed (applied name arguments).toList := by
  rw [toList_applied]
  constructor
  · intro c here
    rw [List.append_assoc, List.append_assoc, List.head?_append, opens] at here
    cases here
    exact visible
  · intro c here
    rw [List.getLast?_concat] at here
    cases here
    rfl

theorem headName_append (plain : '(' ∉ name) (rest : List Char) :
    headName (name ++ ['('] ++ rest) = name := by
  have before : ∀ c ∈ name, (c != '(') = true := by
    intro c member
    simpa using ne_of_mem_of_not_mem member plain
  rw [headName, List.append_assoc, List.takeWhile_append_of_pos before]
  simp

theorem headName_applied {name : String} (plain : '(' ∉ name.toList) (arguments : String) :
    headName (applied name arguments).toList = name.toList := by
  rw [toList_applied, List.append_assoc]
  exact headName_append plain _

/-- A text starts with a name and a parenthesis only if that is its head name. -/
theorem not_prefix_of_headName (plain : '(' ∉ name) (other : headName text ≠ name) :
    ¬ name ++ ['('] <+: text := by
  rintro ⟨arguments, rfl⟩
  exact other (headName_append plain arguments)

theorem dropLead?_headName (plain : '(' ∉ name) (other : headName text ≠ name) :
    dropLead? (name ++ ['(']) text = none := by
  rw [← Option.not_isSome_iff_eq_none, dropLead?_isSome_iff]
  exact not_prefix_of_headName plain other

theorem enclosed?_headName (plain : '(' ∉ name) (other : headName text ≠ name) :
    enclosed? (name ++ ['(']) text = none := by
  rw [enclosed?, dropLead?_headName plain other]
  rfl

end Applied

theorem unwrapOnce?_eq (text : List Char) :
    unwrapOnce? text = (enclosed? ("Nullable".toList ++ ['(']) text).or
      (enclosed? ("LowCardinality".toList ++ ['(']) text) := by
  simp [unwrapOnce?]

theorem unwrapOnce?_headName {text : List Char} (nullable : headName text ≠ "Nullable".toList)
    (lowCardinality : headName text ≠ "LowCardinality".toList) : unwrapOnce? text = none := by
  rw [unwrapOnce?_eq, enclosed?_headName (by simp) nullable,
    enclosed?_headName (by simp) lowCardinality]
  rfl

theorem unwrap_of_none {text : List Char} (none : unwrapOnce? text = none) :
    unwrap text = text := by
  rw [unwrap]
  split
  · rename_i some
    rw [none] at some
    cases some
  · rfl

theorem unwrap_of_some {text inner : List Char} (some : unwrapOnce? text = some inner) :
    unwrap text = unwrap inner := by
  rw [unwrap]
  split
  · rename_i found
    rw [some] at found
    cases found
    rfl
  · rename_i none
    rw [some] at none
    cases none

theorem scalarTypeOf_of_none {text : List Char}
    (none : aggregateValue? (unwrap (trim text)) = none) :
    scalarTypeOf text = namedType (unwrap (trim text)) := by
  rw [scalarTypeOf]
  split
  · rename_i some
    rw [none] at some
    cases some
  · rfl

theorem scalarTypeOf_of_some {text value : List Char}
    (some : aggregateValue? (unwrap (trim text)) = some value) :
    scalarTypeOf text = scalarTypeOf value := by
  rw [scalarTypeOf]
  split
  · rename_i found
    rw [some] at found
    cases found
    rfl
  · rename_i none
    rw [some] at none
    cases none

/-- The scalar type depends on no more of a text than what its outer wrappers enclose. -/
theorem scalarTypeOf_congr {text other : List Char}
    (same : unwrap (trim text) = unwrap (trim other)) : scalarTypeOf text = scalarTypeOf other := by
  rw [scalarTypeOf.eq_def text, scalarTypeOf.eq_def other, same]

namespace TypeExpr

theorem headName_simpleAggregate (f : FunctionText) (e : TypeExpr) :
    headName (simpleAggregate f e).text.toList = "SimpleAggregateFunction".toList :=
  headName_applied (by simp) _

theorem oneLine_text (e : TypeExpr) : '\n' ∉ e.text.toList := by
  induction e with
  | leaf l => exact l.oneLine
  | nullable e ih => exact oneLine_applied (by simp) ih
  | lowCardinality e ih => exact oneLine_applied (by simp) ih
  | simpleAggregate f e ih =>
    apply oneLine_applied (by simp)
    simp [f.oneLine, ih]

theorem isTrimmed_text (e : TypeExpr) : IsTrimmed e.text.toList := by
  cases e with
  | leaf l => exact l.trimmed
  | nullable e => exact isTrimmed_applied (by simp; rfl) (by decide) _
  | lowCardinality e => exact isTrimmed_applied (by simp; rfl) (by decide) _
  | simpleAggregate f e => exact isTrimmed_applied (by simp; rfl) (by decide) _

theorem unwrapOnce?_nullable (e : TypeExpr) :
    unwrapOnce? e.nullable.text.toList = some e.text.toList := by
  have whole : e.nullable.text.toList = "Nullable(".toList ++ (e.text.toList ++ [')']) := by
    simp [text, toList_applied]
  exact unwrapOnce?_eq_some_iff.2 ⟨e.oneLine_text, .inl whole⟩

theorem unwrapOnce?_lowCardinality (e : TypeExpr) :
    unwrapOnce? e.lowCardinality.text.toList = some e.text.toList := by
  have whole : e.lowCardinality.text.toList =
      "LowCardinality(".toList ++ (e.text.toList ++ [')']) := by
    simp [text, toList_applied]
  exact unwrapOnce?_eq_some_iff.2 ⟨e.oneLine_text, .inr whole⟩

theorem unwrapOnce?_leaf (l : Leaf) : unwrapOnce? l.text.toList = none := by
  have unwrapped := l.unwrapped
  simp only [List.mem_cons, not_or] at unwrapped
  exact unwrapOnce?_headName unwrapped.1 unwrapped.2.1

theorem unwrapOnce?_simpleAggregate (f : FunctionText) (e : TypeExpr) :
    unwrapOnce? (simpleAggregate f e).text.toList = none :=
  unwrapOnce?_headName (by simp [headName_simpleAggregate]) (by simp [headName_simpleAggregate])

theorem unwrap_text (e : TypeExpr) : unwrap e.text.toList = e.bare.text.toList := by
  induction e with
  | leaf l => exact unwrap_of_none (unwrapOnce?_leaf l)
  | nullable e ih => rw [unwrap_of_some (unwrapOnce?_nullable e), ih, bare]
  | lowCardinality e ih => rw [unwrap_of_some (unwrapOnce?_lowCardinality e), ih, bare]
  | simpleAggregate f e => exact unwrap_of_none (unwrapOnce?_simpleAggregate f e)

theorem aggregateLead_eq :
    "SimpleAggregateFunction(".toList = "SimpleAggregateFunction".toList ++ ['('] := by
  simp

theorem aggregateValue?_leaf (l : Leaf) : aggregateValue? l.text.toList = none := by
  have unwrapped := l.unwrapped
  simp only [List.mem_cons, not_or] at unwrapped
  rw [aggregateValue?, aggregateLead_eq, dropLead?_headName (by simp) unwrapped.2.2.1]
  rfl

/-- The first comma ends the function, since it has none, and the value type reaches up to the last
parenthesis. -/
theorem aggregateValue?_simpleAggregate (f : FunctionText) (e : TypeExpr) :
    aggregateValue? (simpleAggregate f e).text.toList = some e.text.toList := by
  have whole : (simpleAggregate f e).text.toList = "SimpleAggregateFunction(".toList ++
      (f.text.toList ++ ',' :: ' ' :: (e.text.toList ++ [')'])) := by
    rw [text, toList_applied, aggregateLead_eq]
    simp
  have split : splitFirst? ',' (f.text.toList ++ ',' :: ' ' :: (e.text.toList ++ [')'])) =
      some (f.text.toList, ' ' :: (e.text.toList ++ [')'])) :=
    splitFirst?_eq_some_iff.2 ⟨rfl, f.noComma⟩
  have named : f.text.toList.isEmpty = false := by
    simpa using f.nonempty
  have value : trimStart (' ' :: (e.text.toList ++ [')'])) = e.text.toList ++ [')'] := by
    refine dropWhile_padded Blanks.space ?_
    intro c first
    cases inner : e.text.toList with
    | nil =>
      rw [inner] at first
      cases first
      rfl
    | cons d rest =>
      have visible := e.isTrimmed_text.1
      rw [inner] at first visible
      exact visible c first
  have closed : enclosed? [] (e.text.toList ++ [')']) = some e.text.toList :=
    enclosed?_eq_some_iff.2 ⟨rfl, e.oneLine_text⟩
  rw [aggregateValue?, whole, dropLead?_append]
  simp only [Option.bind_eq_bind, Option.bind_some, split, named, value, closed]
  rfl

theorem unwrap_trim (e : TypeExpr) : unwrap (trim e.text.toList) = e.bare.text.toList := by
  rw [trim_of_isTrimmed e.isTrimmed_text, unwrap_text]

theorem scalarTypeOf_text (e : TypeExpr) :
    scalarTypeOf e.text.toList = (scalarTypes.lookup e.innermost.name).getD .other := by
  induction e with
  | leaf l =>
    have plain : aggregateValue? (unwrap (trim (leaf l).text.toList)) = none := by
      rw [unwrap_trim]
      exact aggregateValue?_leaf l
    rw [scalarTypeOf_of_none plain, unwrap_trim]
    rfl
  | nullable e ih =>
    have same : unwrap (trim e.nullable.text.toList) = unwrap (trim e.text.toList) := by
      rw [unwrap_trim, unwrap_trim, bare]
    rw [scalarTypeOf_congr same, ih, innermost]
  | lowCardinality e ih =>
    have same : unwrap (trim e.lowCardinality.text.toList) = unwrap (trim e.text.toList) := by
      rw [unwrap_trim, unwrap_trim, bare]
    rw [scalarTypeOf_congr same, ih, innermost]
  | simpleAggregate f e ih =>
    have value : aggregateValue? (unwrap (trim (simpleAggregate f e).text.toList)) =
        some e.text.toList := by
      rw [unwrap_trim]
      exact aggregateValue?_simpleAggregate f e
    rw [scalarTypeOf_of_some value, ih, innermost]

theorem aggregateLead_prefix_iff (e : TypeExpr) :
    "SimpleAggregateFunction(".toList <+: e.bare.text.toList ↔
      ∃ f inner, e.bare = simpleAggregate f inner := by
  induction e with
  | nullable e ih => exact ih
  | lowCardinality e ih => exact ih
  | leaf l =>
    have unwrapped := l.unwrapped
    simp only [List.mem_cons, not_or] at unwrapped
    constructor
    · intro lead
      rw [aggregateLead_eq] at lead
      exact absurd lead (not_prefix_of_headName (by simp) unwrapped.2.2.1)
    · rintro ⟨f, inner, same⟩
      cases same
  | simpleAggregate f e =>
    constructor
    · intro _
      exact ⟨f, e, rfl⟩
    · intro _
      rw [bare, text, toList_applied, ← aggregateLead_eq, List.append_assoc]
      exact List.prefix_append _ _

theorem stateLead_prefix_iff (e : TypeExpr) :
    "AggregateFunction(".toList <+: e.bare.text.toList ↔
      ∃ l, e.bare = leaf l ∧ "AggregateFunction(".toList <+: l.text.toList := by
  induction e with
  | nullable e ih => exact ih
  | lowCardinality e ih => exact ih
  | leaf l =>
    constructor
    · intro lead
      exact ⟨l, rfl, lead⟩
    · rintro ⟨other, same, lead⟩
      cases same
      exact lead
  | simpleAggregate f e =>
    have lead_eq : "AggregateFunction(".toList = "AggregateFunction".toList ++ ['('] := by simp
    constructor
    · intro lead
      rw [lead_eq] at lead
      refine absurd lead (not_prefix_of_headName (by simp) ?_)
      rw [bare, headName_simpleAggregate]
      simp
    · rintro ⟨l, same, _⟩
      cases same

/-- The scalar type of an expression is that of its innermost name, and it aggregates if its outer
wrappers enclose a simple aggregate or the state of an aggregate function. -/
theorem expression_reading (e : TypeExpr) {before after : String}
    (blankBefore : isAllBlank before = true) (blankAfter : isAllBlank after = true) :
    scalarType (before ++ e.text ++ after) =
        (scalarTypes.lookup e.innermost.name).getD .other ∧
      (isAggregateType (before ++ e.text ++ after) = true ↔
        (∃ f inner, e.bare = simpleAggregate f inner) ∨
          ∃ l, e.bare = leaf l ∧ "AggregateFunction(".toList <+: l.text.toList) := by
  have whole : (before ++ e.text ++ after).toList =
      before.toList ++ e.text.toList ++ after.toList := by
    rw [String.toList_append, String.toList_append]
  have trimmed : trim (before ++ e.text ++ after).toList = e.text.toList := by
    rw [whole]
    exact trim_padded (List.all_eq_true.1 blankBefore) e.isTrimmed_text
      (List.all_eq_true.1 blankAfter)
  constructor
  · have same : unwrap (trim (before ++ e.text ++ after).toList) =
        unwrap (trim e.text.toList) := by
      rw [trimmed, trim_of_isTrimmed e.isTrimmed_text]
    rw [scalarType, scalarTypeOf_congr same, scalarTypeOf_text]
  · simp only [isAggregateType]
    rw [trimmed, unwrap_text, Bool.or_eq_true, dropLead?_isSome_iff, dropLead?_isSome_iff,
      stateLead_prefix_iff, aggregateLead_prefix_iff, or_comm]

/-- The quoted argument of the leaf looks like a wrapped type, up to its comma and parentheses. -/
def quantileTimes : TypeExpr :=
  lowCardinality (simpleAggregate
    ⟨"quantilesTiming(0.5)", by decide, by decide, by decide, by decide⟩
    (nullable (leaf ⟨"DateTime64(3, 'Nullable(a), b')", by decide, by decide, by decide⟩)))

theorem quantileTimes_reading :
    isAllBlank " \t" = true ∧ isAllBlank "\n" = true ∧
      scalarType (" \t" ++ quantileTimes.text ++ "\n") = .timestamp ∧
      isAggregateType (" \t" ++ quantileTimes.text ++ "\n") = true := by
  have blankBefore : isAllBlank " \t" = true := by decide
  have blankAfter : isAllBlank "\n" = true := by decide
  obtain ⟨scalar, aggregate⟩ := expression_reading quantileTimes blankBefore blankAfter
  have listed : (scalarTypes.lookup quantileTimes.innermost.name).getD .other = .timestamp := by
    decide
  exact ⟨blankBefore, blankAfter, scalar.trans listed, aggregate.2 (.inl ⟨_, _, rfl⟩)⟩

end TypeExpr

end SeriesCatalog.ClickHouse
