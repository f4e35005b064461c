import SeriesCatalog.Json
import SeriesCatalog.Mismatch
import SeriesCatalog.NameMap
import SeriesCatalog.Record
import SeriesCatalog.ScalarType

/-! # Reading JSON values as typed data

A record is read from an object, whose members may stand in any order and among others that the
record does not know, or from the list of its field values. The members are checked in the order
in which they stand, so the first one that does not fit is reported.
-/

namespace SeriesCatalog

namespace Json

def found : Json → Found
  | .null => .null
  | .bool value => .boolean value
  | .integer value => .integer value
  | .double negative magnitude => .float (doubleText negative magnitude)
  | .string value => .string value
  | .array _ => .sequence
  | .object _ => .map

/-- The value is of another kind than expected. -/
def unexpected {α : Type} (j : Json) (expected : String) : Except Mismatch α :=
  .error (.type j.found expected)

def asString : Json → Except Mismatch String
  | .string value => .ok value
  | j => j.unexpected "a string"

def asBool : Json → Except Mismatch Bool
  | .bool value => .ok value
  | j => j.unexpected "a boolean"

/-- A natural number below a bound, called by the name of its width. -/
def asNatural (width : String) (bound : Nat) : Json → Except Mismatch Nat
  | .integer value =>
    if 0 ≤ value ∧ value < bound then .ok value.toNat else .error (.value (.integer value) width)
  | j => j.unexpected width

/-- The null value as none, any other as it is read. -/
def asOption {α : Type} (read : Json → Except Mismatch α) : Json → Except Mismatch (Option α)
  | .null => .ok none
  | j => (read j).map some

def asList {α : Type} (read : Json → Except Mismatch α) : Json → Except Mismatch (List α)
  | .array items => items.mapM read
  | j => j.unexpected "a sequence"

/-- An object as a map; of several members of one name the last counts. -/
def asMap {α : Type} (read : Json → Except Mismatch α) : Json → Except Mismatch (NameMap α)
  | .object members =>
    return NameMap.ofList (← members.mapM fun (name, value) => return (name, ← read value))
  | j => j.unexpected "a map"

/-- The name of a scalar type; an object of that one name and the null value stands for it too. -/
def asScalarType : Json → Except Mismatch ScalarType
  | .string name => ofName name
  | .object [(name, value)] => do
    let type ← ofName name
    match value with
    | .null => return type
    | j => j.unexpected "unit"
  | .object _ => .error (.value .map "map with a single key")
  | j => j.unexpected "string or map"
where
  ofName (name : String) : Except Mismatch ScalarType :=
    match ScalarType.ofName? name with
    | some type => .ok type
    | none => .error (.unknownVariant name (ScalarType.all.map ScalarType.name))

def asInterval (j : Json) : Except Mismatch Interval := do
  match Interval.parse (← j.asString) with
  | .ok interval => return interval
  | .error e => throw (.interval e)

/-- The words for a record in messages about its length. -/
def recordLength (title : String) (size : Nat) : String :=
  title ++ " with " ++ toString size ++ if size = 1 then " element" else " elements"

/-- Pairs the fields of a record with the items of a list, from the item with number `index`;
`whole` are the words for a list of the right length. -/
def pairItems (whole : String) (index : Nat) :
    List (FieldRule (Except Mismatch) Json) → List Json → Except Mismatch (List (String × Json))
  | [], [] => .ok []
  | [], rest => .error (.length (index + rest.length) "fewer elements in array")
  | rule :: rules, [] =>
    if rule.required then .error (.length index whole) else pairItems whole index rules []
  | rule :: rules, item :: items => do
    rule.check item
    return (rule.name, item) :: (← pairItems whole (index + 1) rules items)

/-- A member fits if its name is unknown or its value is right. -/
def checkMember (rules : List (FieldRule (Except Mismatch) Json)) (member : String × Json) :
    Except Mismatch Unit :=
  match FieldRule.find? rules member.1 with
  | some rule => rule.check member.2
  | none => .ok ()

/-- The members of a record, all of them checked and the required ones present. -/
def asRecord (title : String) (rules : List (FieldRule (Except Mismatch) Json)) :
    Json → Except Mismatch (List (String × Json))
  | .array items => pairItems (recordLength title rules.length) 0 rules items
  | .object members => do
    members.forM (checkMember rules)
    match FieldRule.missing? rules (members.map (·.1)) with
    | some name => throw (.missingField name)
    | none => return members
  | j => j.unexpected title

def needed {α : Type} (name : String) (read : Json → Except Mismatch α) :
    FieldRule (Except Mismatch) Json :=
  ⟨name, fun j => (read j).map fun _ => (), true⟩

def optional {α : Type} (name : String) (read : Json → Except Mismatch α) :
    FieldRule (Except Mismatch) Json :=
  ⟨name, fun j => (read j).map fun _ => (), false⟩

def field {α : Type} (members : List (String × Json)) (name : String)
    (read : Json → Except Mismatch α) : Except Mismatch α :=
  match lookup? members name with
  | some j => read j
  | none => .error (.missingField name)

/-- The value of a field, or a given one if the field is missing. -/
def fieldOr {α : Type} (fallback : α) (members : List (String × Json)) (name : String)
    (read : Json → Except Mismatch α) : Except Mismatch α :=
  match lookup? members name with
  | some j => read j
  | none => .ok fallback

end Json

end SeriesCatalog
