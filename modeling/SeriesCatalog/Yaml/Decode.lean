import SeriesCatalog.Yaml.Value
import SeriesCatalog.NameMap
import SeriesCatalog.Record
import SeriesCatalog.ScalarType

/-! # Reading YAML documents as typed data

A text is taken from any scalar, however it is spelled. An empty scalar stands for an empty record,
list or map. Aliases may be followed a number of times that grows with the size of the document. A
fault is reported with the path to the place of the value that does not fit; a fault in what a text
says gets the path of the list or record that the text belongs to.
-/

namespace SeriesCatalog.Yaml

/-- A node and the way to it. -/
structure Spot where
  document : Document
  path : String
  node : Node

def Document.spot (d : Document) : Spot := ⟨d, ".", d.root⟩

/-- Reading a document as data. The state is how often aliases may still be followed. -/
abbrev Decoding := StateT Nat (Except Fault)

namespace Spot

/-- The spot of the node that an alias stands for. -/
def followed (s : Spot) : Decoding Spot := do
  match s.node with
  | .alias _ =>
    match ← get with
    | 0 => throw .tooManyAliases
    | left + 1 =>
      set left
      return { s with node := s.document.resolve s.node }
  | _ => return s

def item (s : Spot) (index : Nat) (node : Node) : Spot :=
  { s with path := s.path ++ "[" ++ toString index ++ "]", node }

/-- The value of a key. A key that is no scalar itself has no name in the path. -/
def child (s : Spot) (key value : Node) : Spot :=
  let name := match key with
    | .scalar _ _ text => text
    | _ => "?"
  { s with path := (if s.path = "." then "" else s.path ++ ".") ++ name, node := value }

/-- Gives a fault without a path that of the spot. -/
def locate {α : Type} (s : Spot) (decoding : Decoding α) : Decoding α := fun left =>
  match decoding left with
  | .error (.misfit none mismatch) => .error (.misfit (some s.path) mismatch)
  | result => result

/-- Reads once more what has been read before, without counting the aliases again. -/
def reread {α : Type} (read : Spot → Decoding α) (s : Spot) : Decoding α := fun left =>
  (read s s.document.aliasLimit).map fun (value, _) => (value, left)

def unexpected {α : Type} (s : Spot) (expected : String) : Decoding α :=
  throw (.misfit (some s.path) (s.node.mismatch expected))

def scalarText (expected : String) (s : Spot) : Decoding String := do
  let s ← s.followed
  match s.node with
  | .scalar _ _ text => return text
  | _ => s.unexpected expected

def asString : Spot → Decoding String :=
  scalarText "a string"

/-- A truth value: a plain scalar, or a literal block with the tag of truth values. -/
def asBool (s : Spot) : Decoding Bool := do
  let s ← s.followed
  let value := match s.node with
    | .scalar tag style text =>
      if style = .plain ∨ (style = .literal ∧ tag = some (Tag.common "bool")) then boolean? text
      else none
    | _ => none
  match value with
  | some value => return value
  | none => s.unexpected "a boolean"

/-- Nothing, if a plain scalar is empty or null, else what is read. The tag of null allows nothing
but null, any other tag is no null. -/
def asOption {α : Type} (read : Spot → Decoding α) (s : Spot) : Decoding (Option α) := do
  let s ← s.followed
  match s.node with
  | .scalar none .plain text =>
    if text.isEmpty || isNull text then return none else return some (← read s)
  | .scalar (some tag) .plain text =>
    if tag = Tag.common "null" then
      if isNull text then return none else throw (.misfit none (.value (.string text) "null"))
    else return some (← read s)
  | _ => return some (← read s)

/-- Reads items in order, the first of which has a number. -/
def readItems {α : Type} (read : Spot → Decoding α) (s : Spot) (index : Nat) :
    List Node → Decoding (List α)
  | [] => return []
  | node :: rest => do
    let value ← read (s.item index node)
    return value :: (← readItems read s (index + 1) rest)

/-- The items of a list; there are none if nothing stands where it is expected. -/
def items? : Node → Option (List Node)
  | .sequence _ items => some items
  | .scalar _ .plain "" => some []
  | _ => none

/-- The entries of a mapping; there are none if nothing stands where it is expected. -/
def entries? : Node → Option (List (Node × Node))
  | .mapping _ entries => some entries
  | .scalar _ .plain "" => some []
  | _ => none

def asList {α : Type} (read : Spot → Decoding α) (s : Spot) : Decoding (List α) := do
  let s ← s.followed
  match items? s.node with
  | some items => s.locate (readItems read s 0 items)
  | none => s.unexpected "a sequence"

/-- A map; of several entries of one name the last counts. -/
def asMap {α : Type} (read : Spot → Decoding α) (s : Spot) : Decoding (NameMap α) := do
  let s ← s.followed
  match entries? s.node with
  | some entries => s.locate do
    let pairs ← entries.mapM fun (key, value) => do
      let name ← { s with node := key }.asString
      return (name, ← read (s.child key value))
    return NameMap.ofList pairs
  | none => s.unexpected "a map"

/-- The fields of a record among the entries of a mapping, in order. -/
def readFields (rules : List (FieldRule Decoding Spot)) (s : Spot) (seen : List String) :
    List (Node × Node) → Decoding (List (String × Spot))
  | [] => return []
  | (key, value) :: rest => do
    let name ← { s with node := key }.scalarText "field identifier"
    match FieldRule.find? rules name with
    | none => readFields rules s seen rest
    | some rule =>
      if name ∈ seen then throw (.misfit none (.duplicateField name))
      let field := s.child key value
      rule.check field
      return (name, field) :: (← readFields rules s (name :: seen) rest)

/-- The fields of a record, all of them checked and the required ones present. -/
def asRecord (title : String) (rules : List (FieldRule Decoding Spot)) (s : Spot) :
    Decoding (List (String × Spot)) := do
  let s ← s.followed
  match entries? s.node with
  | some entries => s.locate do
    let fields ← readFields rules s [] entries
    match FieldRule.missing? rules (fields.map (·.1)) with
    | some name => throw (.misfit none (.missingField name))
    | none => return fields
  | none => s.unexpected title

def namedType (name : String) : Decoding ScalarType :=
  match ScalarType.ofName? name with
  | some type => return type
  | none => throw (.misfit none (.unknownVariant name (ScalarType.all.map ScalarType.name)))

def asNothing (s : Spot) : Decoding Unit :=
  match s.node with
  | .scalar _ style text =>
    if style = .plain ∧ (text.isEmpty ∨ isNull text) then return ()
    else throw (.misfit (some s.path) (.value (.string text) "null"))
  | _ => s.unexpected "unit"

/-- The name of a scalar type, as a text or as the tag of nothing. -/
def asScalarType (s : Spot) : Decoding ScalarType := do
  match s.node with
  | .alias _ => s.locate (read (← s.followed).node)
  | node => read node
where
  read (node : Node) : Decoding ScalarType := do
    let tag := match node with
      | .scalar tag .. | .sequence tag _ | .mapping tag _ => tag
      | .alias _ => none
    match tag.bind Tag.name? with
    | some name =>
      let type ← namedType name
      { s with node }.asNothing
      return type
    | none =>
      match node with
      | .scalar _ _ text => s.locate (namedType text)
      | .sequence .. => unfit .sequence
      | _ => unfit .map
  unfit (found : Found) : Decoding ScalarType :=
    throw (.misfit (some s.path) (.type found "a YAML tag starting with '!'"))

def asInterval (s : Spot) : Decoding Interval := do
  match Interval.parse (← s.asString) with
  | .ok interval => return interval
  | .error e => throw (.misfit none (.interval e))

def needed {α : Type} (name : String) (read : Spot → Decoding α) : FieldRule Decoding Spot :=
  ⟨name, fun s => discard (read s), true⟩

def optional {α : Type} (name : String) (read : Spot → Decoding α) : FieldRule Decoding Spot :=
  ⟨name, fun s => discard (read s), false⟩

/-- The value of a field that must be there, once it was checked. -/
def field {α : Type} (fields : List (String × Spot)) (name : String) (read : Spot → Decoding α) :
    Decoding α :=
  match fields.lookup name with
  | some s => reread read s
  | none => throw (.misfit none (.missingField name))

/-- The value of a field, once it was checked, or a given one if the field is missing. -/
def fieldOr {α : Type} (fallback : α) (fields : List (String × Spot)) (name : String)
    (read : Spot → Decoding α) : Decoding α :=
  match fields.lookup name with
  | some s => reread read s
  | none => return fallback

end Spot

def read {α : Type} (reader : Spot → Decoding α) (text : String) : Except DocumentError α :=
  match Document.ofText? text with
  | none => .error .unreadable
  | some d =>
    match (reader d.spot).run d.aliasLimit with
    | .ok (value, _) => .ok value
    | .error fault => .error (.content fault)

end SeriesCatalog.Yaml
