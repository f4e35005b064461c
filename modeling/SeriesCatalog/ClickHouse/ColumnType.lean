import SeriesCatalog.ScalarType
import SeriesCatalog.Text.Blank

/-! # Column types of ClickHouse

A reported column type is a name with optional arguments in parentheses. `Nullable` and
`LowCardinality` wrap another type, `SimpleAggregateFunction` names a function and the type of the
values it keeps; the scalar type is that of the innermost name.
-/

namespace SeriesCatalog.ClickHouse

open Text

/-- The text before a last character, if that is the one given. -/
def dropLast? (c : Char) (text : List Char) : Option (List Char) :=
  if text.getLast? = some c then some text.dropLast else none

/-- What stands between a lead and a closing parenthesis at the end; it has one line. -/
def enclosed? (lead text : List Char) : Option (List Char) := do
  let inner ← dropLast? ')' (← dropLead? lead text)
  if '\n' ∈ inner then none else some inner

/-- The type inside an outer `Nullable` or `LowCardinality`. -/
def unwrapOnce? (text : List Char) : Option (List Char) :=
  enclosed? "Nullable(".toList text <|> enclosed? "LowCardinality(".toList text

/-- The value type of an outer `SimpleAggregateFunction`: what follows the first comma, which has
some text for the function before it. -/
def aggregateValue? (text : List Char) : Option (List Char) := do
  let (function, value) ← splitFirst? ',' (← dropLead? "SimpleAggregateFunction(".toList text)
  if function.isEmpty then none else enclosed? [] (trimStart value)

theorem length_enclosed {lead text inner : List Char} (h : enclosed? lead text = some inner) :
    inner.length < text.length := by
  simp only [enclosed?, Option.bind_eq_bind, Option.bind_eq_some_iff] at h
  obtain ⟨rest, lead_eq, found, last_eq, same⟩ := h
  have total := length_dropLead lead_eq
  simp only [dropLast?] at last_eq
  split at last_eq
  · rename_i last
    have : rest ≠ [] := by rintro rfl; simp at last
    have : 0 < rest.length := List.length_pos_iff.2 this
    split at same
    · simp at same
    · simp only [Option.some.injEq] at last_eq same
      subst last_eq same
      simp only [List.length_dropLast]
      omega
  · simp at last_eq

theorem length_unwrapOnce {text inner : List Char} (h : unwrapOnce? text = some inner) :
    inner.length < text.length := by
  simp only [unwrapOnce?, Option.orElse_eq_orElse, Option.orElse_eq_or] at h
  rcases Option.or_eq_some_iff.1 h with h | ⟨_, h⟩ <;> exact length_enclosed h

theorem length_aggregateValue {text inner : List Char} (h : aggregateValue? text = some inner) :
    inner.length < text.length := by
  simp only [aggregateValue?, Option.bind_eq_bind, Option.bind_eq_some_iff] at h
  obtain ⟨rest, lead_eq, parts, split_eq, h⟩ := h
  have := length_dropLead lead_eq
  have := length_splitFirst split_eq
  have := length_trimStart_le parts.2
  split at h
  · simp at h
  · have := length_enclosed h
    omega

/-- The type inside all outer `Nullable` and `LowCardinality`. -/
def unwrap (text : List Char) : List Char :=
  match _h : unwrapOnce? text with
  | some inner => unwrap inner
  | none => text
termination_by text.length
decreasing_by exact length_unwrapOnce _h

theorem length_unwrap_le (text : List Char) : (unwrap text).length ≤ text.length := by
  fun_induction unwrap text with
  | case1 text inner h ih => have := length_unwrapOnce h; omega
  | case2 => exact Nat.le_refl _

def scalarTypes : List (String × ScalarType) :=
  [("Bool", .boolean), ("Int8", .tinyInt), ("UInt8", .smallInt), ("Int16", .smallInt),
    ("UInt16", .integer), ("Int32", .integer), ("UInt32", .bigInt), ("Int64", .bigInt),
    ("UInt64", .decimal), ("Int128", .decimal), ("UInt128", .decimal), ("Int256", .decimal),
    ("UInt256", .decimal), ("Float32", .float), ("Float64", .double), ("Decimal", .decimal),
    ("Decimal32", .decimal), ("Decimal64", .decimal), ("Decimal128", .decimal),
    ("Decimal256", .decimal), ("String", .varchar), ("UUID", .varchar), ("Enum8", .varchar),
    ("Enum16", .varchar), ("IPv4", .varchar), ("IPv6", .varchar), ("FixedString", .char),
    ("Date", .date), ("Date32", .date), ("DateTime", .timestamp), ("DateTime64", .timestamp)]

/-- The scalar type of a name, which ends before its arguments; unlisted names have the type
`other`. -/
def namedType (text : List Char) : ScalarType :=
  (scalarTypes.lookup (String.ofList (text.takeWhile (· != '(')))).getD .other

/-- The scalar type of a column type, given as characters. -/
def scalarTypeOf (text : List Char) : ScalarType :=
  match _h : aggregateValue? (unwrap (trim text)) with
  | some value => scalarTypeOf value
  | none => namedType (unwrap (trim text))
termination_by text.length
decreasing_by
  have := length_aggregateValue _h
  have := length_unwrap_le (trim text)
  have := length_trim_le text
  omega

def scalarType (type : String) : ScalarType :=
  scalarTypeOf type.toList

/-- The column keeps the state or the values of an aggregate function. -/
def isAggregateType (type : String) : Bool :=
  let bare := unwrap (trim type.toList)
  (dropLead? "AggregateFunction(".toList bare).isSome ||
    (dropLead? "SimpleAggregateFunction(".toList bare).isSome

end SeriesCatalog.ClickHouse
