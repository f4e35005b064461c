import SeriesCatalog.Proofs.NameOrder
import SeriesCatalog.Proofs.RowType

/-! # Rows of column maps, field by field

A factory makes a row of a column map unless it refuses the type of a column. The row is then told
by its fields, whatever else the factory refuses. If not, the refused column that is first in the
order of bytes is the one that is reported, and since a map has each name once, names are never.
-/

namespace SeriesCatalog

/-- One field for each column, at the place that the bytes of its name have among the others. -/
structure RowType.Lists (row : RowType) (columns : NameMap ScalarType) : Prop where
  size : row.fields.length = columns.entries.length
  ordered : row.names.Pairwise fun a b => nameBytes a < nameBytes b
  placed : ∀ index name type, columns.entries[index]? = some (name, type) →
    row.fields[index]? = some (RowField.mk name index type true)
  found : ∀ index name type, columns.entries[index]? = some (name, type) →
    row.field? name = some (RowField.mk name index type true)
  unknown : ∀ name, name ∉ columns.keys → row.field? name = none

namespace RowType

variable {columns : NameMap ScalarType} {name : String} {f : RowField}

theorem getElem?_ofColumns (columns : NameMap ScalarType) (index : Nat) :
    (ofColumns columns).fields[index]? =
      columns.entries[index]?.map fun (name, type) => RowField.mk name index type true := by
  simp only [ofColumns, List.getElem?_mapIdx]

theorem field?_ofColumns_iff :
    (ofColumns columns).field? name = some f ↔ f ∈ (ofColumns columns).fields ∧ f.name = name := by
  apply find?_name_iff
  change (ofColumns columns).names.Nodup
  rw [names_ofColumns]
  exact columns.keys_nodup

theorem ofColumns_lists (columns : NameMap ScalarType) : (ofColumns columns).Lists columns := by
  have placed : ∀ index name type, columns.entries[index]? = some (name, type) →
      (ofColumns columns).fields[index]? = some (RowField.mk name index type true) := by
    intro index name type entry
    simp [getElem?_ofColumns, entry]
  constructor
  case size => simp [ofColumns]
  case ordered =>
    rw [names_ofColumns]
    exact columns.keys_sorted_bytes
  case placed => exact placed
  case found =>
    intro index name type entry
    apply field?_ofColumns_iff.2
    exact ⟨List.mem_of_getElem? (placed index name type entry), rfl⟩
  case unknown =>
    intro name absent
    cases held : (ofColumns columns).field? name with
    | none => rfl
    | some f =>
      obtain ⟨member, same⟩ := field?_ofColumns_iff.1 held
      have known : f.name ∈ (ofColumns columns).names := List.mem_map_of_mem member
      rw [names_ofColumns, same] at known
      exact absurd known absent

end RowType

namespace TypeFactory

variable {factory : TypeFactory} {columns : NameMap ScalarType}

/-- Of the columns with a refused type, this one comes first in the order of bytes. -/
structure RefusesFirst (factory : TypeFactory) (columns : NameMap ScalarType) (name : String)
    (type : ScalarType) : Prop where
  column : columns.get? name = some type
  refused : type ∈ factory.unsupported
  first : ∀ other otherType, columns.get? other = some otherType →
    otherType ∈ factory.unsupported → other ≠ name → nameBytes name < nameBytes other

theorem refusesFirst_of_find? {name : String} {type : ScalarType}
    (found : columns.entries.find? (fun entry => entry.2 ∈ factory.unsupported) =
      some (name, type)) : factory.RefusesFirst columns name type := by
  constructor
  case column => exact NameMap.get?_eq_some_iff.2 (List.mem_of_find?_eq_some found)
  case refused => simpa using List.find?_some found
  case first =>
    intro other otherType column refused different
    have member := NameMap.get?_eq_some_iff.1 column
    rcases find?_first columns.sorted found _ member (by simpa using refused) with same | less
    · cases same
      exact absurd rfl different
    · exact nameBytes_lt less

theorem mapRowType_cases (factory : TypeFactory) (columns : NameMap ScalarType) :
    ((∀ name type, columns.get? name = some type → type ∉ factory.unsupported) ∧
        factory.mapRowType columns = .ok (.ofColumns columns)) ∨
      ∃ name type, factory.RefusesFirst columns name type ∧
        factory.mapRowType columns = .error (.unsupported name type) := by
  rw [mapRowType_eq]
  cases found : columns.entries.find? fun entry => entry.2 ∈ factory.unsupported with
  | some entry => exact .inr ⟨entry.1, entry.2, refusesFirst_of_find? found, rfl⟩
  | none =>
    refine .inl ⟨?_, rfl⟩
    intro name type column
    have passed := List.find?_eq_none.1 found _ (NameMap.get?_eq_some_iff.1 column)
    simpa using passed

/-- A column map has a row if and only if no type in it is refused, and the row is its columns. Else
the first refused column is reported and nothing else. -/
theorem mapRowType_exact (factory : TypeFactory) (columns : NameMap ScalarType) :
    ((∃ row, factory.mapRowType columns = .ok row) ↔
        ∀ name type, columns.get? name = some type → type ∉ factory.unsupported) ∧
      (∀ row, factory.mapRowType columns = .ok row → row.Lists columns) ∧
      ∀ e, factory.mapRowType columns = .error e →
        ∃ name type, e = .unsupported name type ∧ factory.RefusesFirst columns name type := by
  rcases mapRowType_cases factory columns with ⟨accepted, made⟩ | ⟨name, type, refuses, failed⟩
  · simp only [made, Except.ok.injEq, exists_eq', true_iff, reduceCtorEq, false_imp_iff,
      implies_true, and_true]
    refine ⟨accepted, ?_⟩
    intro row same
    cases same
    exact RowType.ofColumns_lists columns
  · simp only [failed, reduceCtorEq, exists_false, false_imp_iff, implies_true, true_and,
      Except.error.injEq, false_iff]
    constructor
    · intro accepted
      exact accepted name type refuses.column refuses.refused
    · intro e same
      exact ⟨name, type, same.symm, refuses⟩

/-- The shorter name has the greater first byte. -/
def letters : NameMap ScalarType :=
  .ofList [("é", .varchar), ("z~~", .varchar), ("A", .date), ("", .double)]

theorem letters_resolved :
    ((TypeFactory.mk [.varchar]).mapRowType letters = .error (.unsupported "z~~" .varchar) ∧
      (TypeFactory.mk [.varchar]).RefusesFirst letters "z~~" .varchar) ∧
    (∀ name type, letters.get? name = some type → type ∉ [ScalarType.boolean]) ∧
      ∃ row, (TypeFactory.mk [.boolean]).mapRowType letters = .ok row ∧ row.Lists letters := by
  have failed : (TypeFactory.mk [.varchar]).mapRowType letters =
      .error (.unsupported "z~~" .varchar) := by
    decide
  obtain ⟨name, type, same, refuses⟩ := (mapRowType_exact ⟨[.varchar]⟩ letters).2.2 _ failed
  cases same
  have accepted : ∀ name type, letters.get? name = some type → type ∉ [ScalarType.boolean] := by
    intro name type column
    have every : ∀ entry ∈ letters.entries, entry.2 ∉ [ScalarType.boolean] := by decide
    exact every _ (NameMap.get?_eq_some_iff.1 column)
  obtain ⟨row, made⟩ := (mapRowType_exact ⟨[.boolean]⟩ letters).1.2 accepted
  exact ⟨⟨failed, refuses⟩, accepted, row, made,
    (mapRowType_exact ⟨[.boolean]⟩ letters).2.1 row made⟩

end TypeFactory

end SeriesCatalog
