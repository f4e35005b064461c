import SeriesCatalog.ScalarType
import SeriesCatalog.NameMap

/-! # Row types

A row type is an ordered record of named, typed fields. A type factory assembles it: the factory
may refuse some scalar types, and no two fields of a row it assembles share a name.
-/

namespace SeriesCatalog

/-- A field before it has a place in a row. -/
structure FieldSpec where
  name : String
  type : ScalarType
  nullable : Bool
  deriving DecidableEq, Repr

/-- A field of a row type. -/
structure RowField where
  name : String
  /-- Its place in the row, from zero. -/
  index : Nat
  type : ScalarType
  nullable : Bool
  deriving DecidableEq, Repr

/-- The record type of the rows of a table. -/
structure RowType where
  fields : List RowField
  deriving DecidableEq, Repr

namespace RowType

def names (r : RowType) : List String :=
  r.fields.map (·.name)

def field? (r : RowType) (name : String) : Option RowField :=
  r.fields.find? fun f => f.name == name

/-- Type and name of one field; nullable fields carry no mark. -/
def fieldText (f : RowField) : String :=
  f.type.sqlName ++ " " ++ f.name ++ if f.nullable then "" else " NOT NULL"

/-- The text `RecordType(TYPE name, TYPE name NOT NULL)`. -/
def text (r : RowType) : String :=
  "RecordType(" ++ ", ".intercalate (r.fields.map fieldText) ++ ")"

end RowType

/-- Why a factory assembles no row type. -/
inductive TypeError where
  | unsupported (field : String) (type : ScalarType)
  | duplicate (field : String)
  deriving DecidableEq, Repr

def TypeError.message : TypeError → String
  | .unsupported field type =>
    "type " ++ type.sqlName ++ " of field `" ++ field ++ "` is not supported"
  | .duplicate field => "duplicate field `" ++ field ++ "` in row type"

/-- A maker of row types that refuses some scalar types. -/
structure TypeFactory where
  unsupported : List ScalarType
  deriving DecidableEq, Repr

namespace TypeFactory

def permissive : TypeFactory := ⟨[]⟩

def createField (factory : TypeFactory) (spec : FieldSpec) : Except TypeError FieldSpec :=
  if spec.type ∈ factory.unsupported then .error (.unsupported spec.name spec.type) else .ok spec

/-- Gives each field its place, starting at `index`, as long as names are new. -/
def placeFields (seen : List String) (index : Nat) :
    List FieldSpec → Except TypeError (List RowField)
  | [] => .ok []
  | spec :: rest =>
    if spec.name ∈ seen then .error (.duplicate spec.name)
    else do
      let fields ← placeFields (spec.name :: seen) (index + 1) rest
      return ⟨spec.name, index, spec.type, spec.nullable⟩ :: fields

def createRow (specs : List FieldSpec) : Except TypeError RowType :=
  (placeFields [] 0 specs).map RowType.mk

/-- The row type of fields in order; all fields are created before the row. -/
def createFields (factory : TypeFactory) (specs : List FieldSpec) : Except TypeError RowType := do
  createRow (← specs.mapM factory.createField)

/-- The row type of a column map: fields in the order of their names, all of them nullable, since
the store does not promise that any column is filled. -/
def mapRowType (factory : TypeFactory) (columns : NameMap ScalarType) :
    Except TypeError RowType :=
  factory.createFields (columns.entries.map fun (name, type) => ⟨name, type, true⟩)

end TypeFactory

end SeriesCatalog
