import SeriesCatalog.Proofs.NameMap
import SeriesCatalog.Proofs.Outcome
import SeriesCatalog.Table

/-! # Row types of column maps

A factory that refuses no type makes a field of every column. So a table has a row type exactly
when its timestamp and its metrics are among its columns, and the failure names the first that is
not.
-/

namespace SeriesCatalog

/-- The row of all columns in the order of their names, any of which may be missing. -/
def RowType.ofColumns (columns : NameMap ScalarType) : RowType :=
  ⟨columns.entries.mapIdx fun index (name, type) => ⟨name, index, type, true⟩⟩

@[simp] theorem RowType.names_ofColumns (columns : NameMap ScalarType) :
    (RowType.ofColumns columns).names = columns.keys := by
  refine List.ext_getElem? fun index => ?_
  cases found : columns.entries[index]? <;>
    simp [names, ofColumns, NameMap.keys, found]

theorem RowType.entries_ofColumns (columns : NameMap ScalarType) :
    (RowType.ofColumns columns).fields.map (fun f => (f.name, f.type)) = columns.entries := by
  refine List.ext_getElem? fun index => ?_
  cases found : columns.entries[index]? <;> simp [ofColumns, found]

namespace TypeFactory

/-- Fields whose names are new get their places, and then their names are known. -/
theorem placeFields_append {seen : List String} {index : Nat} {specs : List FieldSpec}
    (fresh : ∀ spec ∈ specs, spec.name ∉ seen) (distinct : (specs.map (·.name)).Nodup)
    (rest : List FieldSpec) :
    placeFields seen index (specs ++ rest) =
      (placeFields (specs.reverse.map (·.name) ++ seen) (index + specs.length) rest).map
        ((specs.mapIdx fun i spec => ⟨spec.name, index + i, spec.type, spec.nullable⟩) ++ ·) := by
  induction specs generalizing seen index with
  | nil =>
    change placeFields seen index rest = (placeFields seen index rest).map ([] ++ ·)
    cases placeFields seen index rest <;> rfl
  | cons spec specs ih =>
    obtain ⟨absent, distinct⟩ := List.nodup_cons.1 distinct
    have new : ∀ other ∈ specs, other.name ∉ spec.name :: seen := by
      intro other member known
      rcases List.mem_cons.1 known with same | known
      · exact absent (List.mem_map.2 ⟨other, member, same⟩)
      · exact fresh other (List.mem_cons_of_mem _ member) known
    have known : (spec :: specs).reverse.map (·.name) ++ seen =
        specs.reverse.map (·.name) ++ spec.name :: seen := by
      simp
    have next : index + (spec :: specs).length = index + 1 + specs.length := by
      rw [List.length_cons]
      omega
    rw [List.cons_append, placeFields, if_neg (fresh spec List.mem_cons_self), ih new distinct,
      known, next]
    cases placeFields (specs.reverse.map (·.name) ++ spec.name :: seen)
        (index + 1 + specs.length) rest with
    | error e => rfl
    | ok fields =>
      simp only [Except.map, List.mapIdx_cons, Nat.add_zero, Nat.add_assoc, Nat.add_comm 1]
      rfl

theorem placeFields_ok {seen : List String} {index : Nat} {specs : List FieldSpec}
    (fresh : ∀ spec ∈ specs, spec.name ∉ seen) (distinct : (specs.map (·.name)).Nodup) :
    placeFields seen index specs =
      .ok (specs.mapIdx fun i spec => ⟨spec.name, index + i, spec.type, spec.nullable⟩) := by
  have whole := @placeFields_append seen index specs fresh distinct []
  rw [List.append_nil, placeFields] at whole
  rw [whole, Except.map, List.append_nil]

theorem createRow_ok {specs : List FieldSpec} (distinct : (specs.map (·.name)).Nodup) :
    createRow specs =
      .ok ⟨specs.mapIdx fun i spec => ⟨spec.name, i, spec.type, spec.nullable⟩⟩ := by
  rw [createRow, placeFields_ok (by simp) distinct]
  simp only [Nat.zero_add]
  rfl

/-- The fields of all columns, any of which may be missing. -/
def columnSpecs (columns : NameMap ScalarType) : List FieldSpec :=
  columns.entries.map fun (name, type) => ⟨name, type, true⟩

/-- The names of a map do not repeat, so the fields of its columns make a row. -/
theorem createRow_columnSpecs (columns : NameMap ScalarType) :
    createRow (columnSpecs columns) = .ok (RowType.ofColumns columns) := by
  have distinct : ((columnSpecs columns).map (·.name)).Nodup := by
    rw [columnSpecs, List.map_map]
    exact columns.keys_nodup
  refine (createRow_ok distinct).trans (congrArg (Except.ok ∘ RowType.mk) ?_)
  refine List.ext_getElem? fun index => ?_
  cases found : columns.entries[index]? <;> simp [columnSpecs, found]

theorem mapM_createField (factory : TypeFactory) (specs : List FieldSpec) :
    specs.mapM factory.createField =
      match specs.find? fun spec => spec.type ∈ factory.unsupported with
      | some spec => .error (.unsupported spec.name spec.type)
      | none => .ok specs := by
  induction specs with
  | nil => rfl
  | cons spec rest ih =>
    rw [List.mapM_cons, createField, ih]
    by_cases refused : spec.type ∈ factory.unsupported
    · rw [if_pos refused, List.find?_cons_of_pos (by simpa using refused)]
      rfl
    · rw [if_neg refused, List.find?_cons_of_neg (by simpa using refused)]
      cases rest.find? fun spec => spec.type ∈ factory.unsupported <;> rfl

/-- Only the types of the columns decide whether a map has a row, and which error it has if not. -/
theorem mapRowType_eq (factory : TypeFactory) (columns : NameMap ScalarType) :
    factory.mapRowType columns =
      match columns.entries.find? fun entry => entry.2 ∈ factory.unsupported with
      | some (name, type) => .error (.unsupported name type)
      | none => .ok (RowType.ofColumns columns) := by
  have refused : (columnSpecs columns).find? (fun spec => spec.type ∈ factory.unsupported) =
      (columns.entries.find? fun entry => entry.2 ∈ factory.unsupported).map
        fun (name, type) => ⟨name, type, true⟩ := by
    rw [columnSpecs, List.find?_map]
    rfl
  change (columnSpecs columns).mapM factory.createField >>= createRow = _
  rw [mapM_createField, refused]
  cases columns.entries.find? fun entry => entry.2 ∈ factory.unsupported with
  | some entry => rfl
  | none => exact createRow_columnSpecs columns

theorem mapRowType_permissive (columns : NameMap ScalarType) :
    permissive.mapRowType columns = .ok (RowType.ofColumns columns) := by
  have none : columns.entries.find? (fun entry => entry.2 ∈ permissive.unsupported) = none := by
    simp [permissive]
  rw [mapRowType_eq, none]

end TypeFactory

namespace Table

theorem find?_least {names : List String} {p : String → Bool} {name : String}
    (sorted : names.Pairwise (· < ·)) (found : names.find? p = some name) :
    ∀ other ∈ names, p other = true → name ≤ other := by
  intro other member wanted
  rcases find?_first sorted found other member wanted with rfl | less
  · exact String.le_refl other
  · exact String.not_lt.1 (String.lt_asymm less)

theorem rowType_permissive (t : Table) :
    t.rowType .permissive =
      if t.timestamp ∉ t.columns.keys then .error (.timestampMissing t.dataSource t.timestamp)
      else
        match t.metrics.toList.find? fun metric => metric ∉ t.columns.keys with
        | some metric => .error (.metricMissing t.dataSource metric)
        | none => .ok (RowType.ofColumns t.columns) := by
  rw [rowType, TypeFactory.mapRowType_permissive]
  simp only [Outcome.mapError_ok, bind, Except.bind, RowType.names_ofColumns]
  split
  · rfl
  · rfl

/-- A table resolves when all that it names is among its columns, and then to all of them. -/
theorem rowType_ok_iff {t : Table} {row : RowType} :
    t.rowType .permissive = .ok row ↔
      (t.timestamp ∈ t.columns.keys ∧ ∀ metric ∈ t.metrics.toList, metric ∈ t.columns.keys) ∧
        row = .ofColumns t.columns := by
  rw [rowType_permissive]
  split
  · rename_i missing
    simp [missing]
  · rename_i present
    split
    · rename_i metric found
      have missing := List.find?_some found
      have member := List.mem_of_find?_eq_some found
      simp only [reduceCtorEq, false_iff]
      rintro ⟨⟨-, known⟩, -⟩
      simp [known metric member] at missing
    · rename_i none
      have known : ∀ metric ∈ t.metrics.toList, metric ∈ t.columns.keys := by
        intro metric member
        simpa using List.find?_eq_none.1 none metric member
      simp only [Except.ok.injEq]
      exact ⟨fun same => ⟨⟨Decidable.not_not.1 present, known⟩, same.symm⟩,
        fun resolved => resolved.2.symm⟩

/-- A table that does not resolve lacks its timestamp, or else the metric that is named is the least
of those that it lacks. -/
theorem rowType_error {t : Table} {e : CatalogError} (failed : t.rowType .permissive = .error e) :
    (t.timestamp ∉ t.columns.keys ∧ e = .timestampMissing t.dataSource t.timestamp) ∨
      (t.timestamp ∈ t.columns.keys ∧ ∃ metric ∈ t.metrics.toList,
        e = .metricMissing t.dataSource metric ∧ metric ∉ t.columns.keys ∧
          ∀ other ∈ t.metrics.toList, other ∉ t.columns.keys → metric ≤ other) := by
  rw [rowType_permissive] at failed
  split at failed
  · rename_i missing
    cases failed
    exact .inl ⟨missing, rfl⟩
  · rename_i present
    split at failed
    · rename_i metric found
      cases failed
      have missing := List.find?_some found
      have least := find?_least t.metrics.keys_sorted found
      refine .inr
        ⟨Decidable.not_not.1 present, metric, List.mem_of_find?_eq_some found, rfl, ?_, ?_⟩
      · simpa using missing
      · intro other member unknown
        exact least other member (by simpa using unknown)
    · cases failed

end Table

end SeriesCatalog
