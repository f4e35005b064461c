import Mathlib.Algebra.Group.Nat.Defs
import SeriesCatalog.Proofs.Records
import SeriesCatalog.RowType.Codec

/-! # Row types read back from JSON

A row type is an object of one member and its fields are objects of four. Each of them may as well
be written as a list, and an object may have its members in any order and others among them. All
these spellings are read as the same row type, whether or not a factory would make it.
-/

namespace SeriesCatalog

namespace RowField

variable {f : RowField} {j : Json}

def members (f : RowField) : List (String × Json) :=
  [("name", .string f.name), ("index", .integer f.index), ("scalar_type", .string f.type.name),
    ("nullable", .bool f.nullable)]

def fields (f : RowField) : Json.FilledFields :=
  [(Json.needed "name" Json.asString, .string f.name),
    (Json.needed "index" Json.asIndex, .integer f.index),
    (Json.needed "scalar_type" Json.asScalarType, .string f.type.name),
    (Json.needed "nullable" Json.asBool, .bool f.nullable)]

theorem asIndex_integer {index : Nat} (bounded : index < 2 ^ 64) :
    Json.asIndex (.integer index) = .ok index := by
  have within : 0 ≤ (index : Int) ∧ (index : Int) < (Nat.pow 2 64 : Nat) := by
    have small : index < Nat.pow 2 64 := bounded
    exact ⟨Int.natCast_nonneg index, Int.ofNat_lt.2 small⟩
  rw [Json.asIndex, Json.asNatural, if_pos within, Int.toNat_natCast]

theorem ofJson_spelled (bounded : f.index < 2 ^ 64) (spelled : Json.Spells f.members j) :
    ofJson j = .ok f := by
  have index := asIndex_integer bounded
  have type := Json.asScalarType_name f.type
  have distinct : (f.fields.rules.map (·.name)).Nodup := by
    change (rules.map (·.name)).Nodup
    decide
  have fits : ∀ field ∈ f.fields, field.1.check field.2 = .ok () := by
    simp only [fields, List.forall_mem_cons]
    exact ⟨Json.check_needed rfl, Json.check_needed index, Json.check_needed type,
      Json.check_needed rfl, by simp⟩
  obtain ⟨given, read, held⟩ := Json.FilledFields.asRecord_spelled distinct fits spelled
  simp only [fields, Json.needed, List.forall_mem_cons] at held
  obtain ⟨nameHeld, indexHeld, typeHeld, nullableHeld, -⟩ := held
  have record : j.asRecord "struct RelField" rules = .ok given := read
  simp only [ofJson, record, bind, Except.bind, Json.field_of_lookup? nameHeld,
    Json.field_of_lookup? indexHeld, Json.field_of_lookup? typeHeld,
    Json.field_of_lookup? nullableHeld, index, type, Json.asString, Json.asBool]
  rfl

end RowField

namespace RowType

variable {r : RowType} {j : Json}

/-- The ways to write down a row type, each of its fields in a way of its own. -/
def Spells (r : RowType) (j : Json) : Prop :=
  ∃ items, List.Forall₂ (fun f item => Json.Spells (RowField.members f) item) r.fields items ∧
    Json.Spells [("fields", .array items)] j

theorem spells_toJson (r : RowType) : r.Spells r.toJson := by
  refine ⟨r.fields.map RowField.toJson, ?_, Json.spells_object _⟩
  apply List.forall₂_map_right_iff.2
  apply List.forall₂_same.2
  intro f member
  exact Json.spells_object f.members

theorem fields_spelled (bounded : ∀ f ∈ r.fields, f.index < 2 ^ 64) {items : List Json}
    (each : List.Forall₂ (fun f item => Json.Spells (RowField.members f) item) r.fields items) :
    (Json.array items).asList RowField.ofJson = .ok r.fields := by
  apply Outcome.mapM_of_forall₂
  apply ((List.forall₂_and_left _ _).2 ⟨bounded, each⟩).imp
  intro f item both
  exact RowField.ofJson_spelled both.1 both.2

def parts (items : List Json) : Json.FilledFields :=
  [(Json.needed "fields" (Json.asList RowField.ofJson), .array items)]

theorem ofJson_spells (bounded : ∀ f ∈ r.fields, f.index < 2 ^ 64) (spelled : r.Spells j) :
    ofJson j = .ok r := by
  obtain ⟨items, each, whole⟩ := spelled
  have listed := fields_spelled bounded each
  have distinct : ((parts items).rules.map (·.name)).Nodup := by
    simp [parts, Json.FilledFields.rules]
  have fits : ∀ field ∈ parts items, field.1.check field.2 = .ok () := by
    simp only [parts, List.forall_mem_singleton]
    exact Json.check_needed listed
  obtain ⟨given, read, held⟩ := Json.FilledFields.asRecord_spelled distinct fits whole
  simp only [parts, Json.needed, List.forall_mem_singleton] at held
  have record : j.asRecord "struct RowType" [Json.needed "fields" (Json.asList RowField.ofJson)] =
      .ok given := read
  simp only [ofJson, record, bind, Except.bind, Json.field_of_lookup? held, listed]
  rfl

/-- A row type is read back from its object and from every other spelling of it. -/
theorem spellings_read_back (bounded : ∀ f ∈ r.fields, f.index < 2 ^ 64) :
    ofJson r.toJson = .ok r ∧ ∀ j, r.Spells j → ofJson j = .ok r := by
  constructor
  · exact ofJson_spells bounded r.spells_toJson
  · intro j spelled
    exact ofJson_spells bounded spelled

/-- A row that no factory makes: both fields have one name, and neither is at its index. -/
def twins : RowType :=
  ⟨[⟨"a", 18446744073709551615, .decimal, false⟩, ⟨"a", 7, .other, true⟩]⟩

/-- One field as a list, and the other as an object in reverse with a member of its own. -/
def twinItems : List Json :=
  [.array [.string "a", .integer 18446744073709551615, .string "decimal", .bool false],
    .object [("type", .string "x"), ("nullable", .bool true), ("scalar_type", .string "other"),
      ("index", .integer 7), ("name", .string "a")]]

def twinsJson : Json :=
  .object [("fields ", .null), ("fields", .array twinItems)]

theorem twins_spelled : twins.Spells twinsJson := by
  refine ⟨twinItems, .cons .list (.cons ?_ .nil), ?_⟩
  · apply @Json.Spells.object _ _ [("type", .string "x")]
    · simp [RowField.members]
    · exact List.reverse_perm (RowField.members ⟨"a", 7, .other, true⟩ ++ [("type", .string "x")])
  · apply @Json.Spells.object _ _ [("fields ", .null)]
    · simp
    · exact List.Perm.swap _ _ []

theorem twins_read_back :
    (∀ f ∈ twins.fields, f.index < 2 ^ 64) ∧ ofJson twins.toJson = .ok twins ∧
      twins.Spells twinsJson ∧ ofJson twinsJson = .ok twins := by
  have bounded : ∀ f ∈ twins.fields, f.index < 2 ^ 64 := by
    decide
  have read := spellings_read_back bounded
  exact ⟨bounded, read.1, twins_spelled, read.2 twinsJson twins_spelled⟩

end RowType

end SeriesCatalog
