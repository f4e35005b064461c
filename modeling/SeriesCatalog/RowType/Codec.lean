import SeriesCatalog.Json.Decode
import SeriesCatalog.RowType

/-! # Row types in JSON -/

namespace SeriesCatalog

def Json.asIndex : Json → Except Mismatch Nat :=
  Json.asNatural "usize" (Nat.pow 2 64)

namespace RowField

def toJson (f : RowField) : Json :=
  .object [("name", .string f.name), ("index", .integer f.index),
    ("scalar_type", .string f.type.name), ("nullable", .bool f.nullable)]

/-- The parts of a field in the order in which a list gives them. -/
def rules : List (FieldRule (Except Mismatch) Json) :=
  [Json.needed "name" Json.asString, Json.needed "index" Json.asIndex,
    Json.needed "scalar_type" Json.asScalarType, Json.needed "nullable" Json.asBool]

/-- Reads a field from an object or a list of its parts. -/
def ofJson (j : Json) : Except Mismatch RowField := do
  let members ← j.asRecord "struct RelField" rules
  let name ← Json.field members "name" Json.asString
  let index ← Json.field members "index" Json.asIndex
  let type ← Json.field members "scalar_type" Json.asScalarType
  let nullable ← Json.field members "nullable" Json.asBool
  return ⟨name, index, type, nullable⟩

end RowField

namespace RowType

def toJson (r : RowType) : Json :=
  .object [("fields", .array (r.fields.map RowField.toJson))]

/-- Reads a row type as it stands; names and indices are not checked. -/
def ofJson (j : Json) : Except Mismatch RowType := do
  let members ← j.asRecord "struct RowType" [Json.needed "fields" (Json.asList RowField.ofJson)]
  return ⟨← Json.field members "fields" (Json.asList RowField.ofJson)⟩

end RowType

/-- Reads the list of name, type and nullability of a field. -/
def FieldSpec.ofJson : Json → Except Mismatch FieldSpec
  | .array items => do
    let members ← Json.pairItems "a tuple of size 3" 0
      [Json.needed "name" Json.asString, Json.needed "type" Json.asScalarType,
        Json.needed "nullable" Json.asBool] items
    let name ← Json.field members "name" Json.asString
    let type ← Json.field members "type" Json.asScalarType
    let nullable ← Json.field members "nullable" Json.asBool
    return ⟨name, type, nullable⟩
  | j => j.unexpected "a tuple of size 3"

end SeriesCatalog
