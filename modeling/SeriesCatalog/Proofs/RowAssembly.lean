import Mathlib.Data.List.Induction
import SeriesCatalog.Proofs.RowType

/-! # Rows assembled field by field

The fields of a row are placed one after the other as long as their names are new. A list of names
either has no name twice or has a first place whose name occurred before, and that name is what is
reported.
-/

namespace SeriesCatalog

/-- Every field as it was asked for, at the place it had in the list, and found by its name. -/
structure RowType.Assembles (row : RowType) (specs : List FieldSpec) : Prop where
  size : row.fields.length = specs.length
  placed : ∀ index spec, specs[index]? = some spec →
    row.fields[index]? = some (RowField.mk spec.name index spec.type spec.nullable)
  found : ∀ f ∈ row.fields, row.field? f.name = some f

/-- At the first place of the list whose name occurs before it, this is the name. -/
def RepeatsFirst (names : List String) (name : String) : Prop :=
  ∃ earlier later, names = earlier ++ name :: later ∧ earlier.Nodup ∧ name ∈ earlier

/-- From the end of the list: the last name is new, or it repeats one before it, or the names before
it already have a first one that repeats. -/
theorem nodup_or_repeatsFirst (names : List String) :
    names.Nodup ∨ ∃ name, RepeatsFirst names name := by
  induction names using List.reverseRecOn with
  | nil => exact .inl List.nodup_nil
  | append_singleton names last ih =>
    rcases ih with distinct | ⟨name, earlier, later, rfl, distinct, known⟩
    · by_cases known : last ∈ names
      · exact .inr ⟨last, names, [], rfl, distinct, known⟩
      · have all := List.Nodup.concat known distinct
        rw [List.concat_eq_append] at all
        exact .inl all
    · exact .inr ⟨name, earlier, later ++ [last], by simp, distinct, known⟩

namespace TypeFactory

variable {specs : List FieldSpec} {name : String}

theorem createRow_assembles (distinct : (specs.map (·.name)).Nodup) :
    ∃ row, createRow specs = .ok row ∧ row.Assembles specs := by
  refine ⟨_, createRow_ok distinct, ?_⟩
  constructor
  case size => exact List.length_mapIdx
  case placed =>
    intro index spec held
    simp [held]
  case found =>
    intro f member
    have names : (specs.mapIdx fun i spec =>
        RowField.mk spec.name i spec.type spec.nullable).map (·.name) = specs.map (·.name) := by
      refine List.ext_getElem? fun index => ?_
      cases held : specs[index]? <;> simp [held]
    apply (find?_name_iff ?_).2
    · exact ⟨member, rfl⟩
    · rw [names]
      exact distinct

/-- The fields before the repeated name are placed, and there the loop stops. -/
theorem createRow_repeated (repeats : RepeatsFirst (specs.map (·.name)) name) :
    createRow specs = .error (.duplicate name) := by
  obtain ⟨before, after, split, distinct, known⟩ := repeats
  obtain ⟨earlier, others, rfl, rfl, rest⟩ := List.map_eq_append_iff.1 split
  obtain ⟨spec, later, rfl, rfl, -⟩ := List.map_eq_cons_iff.1 rest
  have seen : spec.name ∈ earlier.reverse.map (·.name) ++ [] := by
    simpa using known
  rw [createRow, placeFields_append (by simp) distinct, placeFields, if_pos seen]
  rfl

theorem distinct_of_createRow {row : RowType} (made : createRow specs = .ok row) :
    (specs.map (·.name)).Nodup := by
  rcases nodup_or_repeatsFirst (specs.map (·.name)) with distinct | ⟨name, repeats⟩
  · exact distinct
  · cases made.symm.trans (createRow_repeated repeats)

theorem assembles_of_createRow {row : RowType} (made : createRow specs = .ok row) :
    row.Assembles specs := by
  obtain ⟨other, same, assembles⟩ := createRow_assembles (distinct_of_createRow made)
  cases made.symm.trans same
  exact assembles

theorem createRow_error_iff {e : TypeError} :
    createRow specs = .error e ↔
      ∃ name, e = .duplicate name ∧ RepeatsFirst (specs.map (·.name)) name := by
  constructor
  · intro failed
    rcases nodup_or_repeatsFirst (specs.map (·.name)) with distinct | ⟨name, repeats⟩
    · obtain ⟨row, made, -⟩ := createRow_assembles distinct
      cases failed.symm.trans made
    · cases failed.symm.trans (createRow_repeated repeats)
      exact ⟨name, rfl, repeats⟩
  · rintro ⟨name, rfl, repeats⟩
    exact createRow_repeated repeats

/-- A row is assembled if and only if all names are different, and it consists of the fields that
were asked for. Else the first name that comes back is reported and nothing else. -/
theorem createRow_exact (specs : List FieldSpec) :
    ((∃ row, createRow specs = .ok row) ↔ (specs.map (·.name)).Nodup) ∧
      (∀ row, createRow specs = .ok row → row.Assembles specs) ∧
      ∀ e, createRow specs = .error e ↔
        ∃ name, e = .duplicate name ∧ RepeatsFirst (specs.map (·.name)) name := by
  refine ⟨⟨?_, ?_⟩, ?_, ?_⟩
  · rintro ⟨row, made⟩
    exact distinct_of_createRow made
  · intro distinct
    exact ⟨_, createRow_ok distinct⟩
  · intro row made
    exact assembles_of_createRow made
  · intro e
    exact createRow_error_iff

/-- Two names stand in the list twice, and the one that comes first is not the first to come back.
-/
def visitSpecs : List FieldSpec :=
  [⟨"city", .varchar, true⟩, ⟨"", .bigInt, false⟩, ⟨"visits", .bigInt, true⟩, ⟨"", .double, true⟩,
    ⟨"city", .varchar, true⟩]

theorem visits_assembled :
    (createRow visitSpecs = .error (.duplicate "") ∧
      RepeatsFirst (visitSpecs.map (·.name)) "") ∧
    ((visitSpecs.take 3).map (·.name)).Nodup ∧
      ∃ row, createRow (visitSpecs.take 3) = .ok row ∧ row.Assembles (visitSpecs.take 3) := by
  have repeats : RepeatsFirst (visitSpecs.map (·.name)) "" :=
    ⟨["city", "", "visits"], ["city"], rfl, by decide, by decide⟩
  have failed := ((createRow_exact visitSpecs).2.2 _).2 ⟨"", rfl, repeats⟩
  have distinct : ((visitSpecs.take 3).map (·.name)).Nodup := by
    decide
  obtain ⟨made, assembles, -⟩ := createRow_exact (visitSpecs.take 3)
  obtain ⟨row, same⟩ := made.2 distinct
  exact ⟨⟨failed, repeats⟩, distinct, row, same, assembles row same⟩

end TypeFactory

end SeriesCatalog
