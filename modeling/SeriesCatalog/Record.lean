/-! # Fields of records -/

namespace SeriesCatalog

/-- A field that a record has, in a document whose values are of type `α` and are read in `m`. -/
structure FieldRule (m : Type → Type) (α : Type) where
  name : String
  check : α → m Unit
  required : Bool

namespace FieldRule

variable {m : Type → Type} {α : Type}

def find? (rules : List (FieldRule m α)) (name : String) : Option (FieldRule m α) :=
  List.find? (fun rule => rule.name == name) rules

/-- The first required field that is not among the given names. -/
def missing? (rules : List (FieldRule m α)) (names : List String) : Option String :=
  (List.find? (fun rule => rule.required && !names.contains rule.name) rules).map (·.name)

end FieldRule

end SeriesCatalog
