import SeriesCatalog.Number.Double

/-! # JSON values -/

namespace SeriesCatalog

inductive Json where
  | null
  | bool (value : Bool)
  | integer (value : Int)
  | double (negative : Bool) (magnitude : Double)
  | string (value : String)
  | array (items : List Json)
  | object (members : List (String × Json))
  deriving Repr, Inhabited

namespace Json

def doubleText (negative : Bool) (magnitude : Double) : String :=
  (if negative then "-" else "") ++ (magnitude.shortest .even).compact

/-- The value that the first member of a name has. -/
def lookup? (members : List (String × Json)) (name : String) : Option Json :=
  (members.find? fun member => member.1 == name).map (·.2)

/-- An optional text, the null value if it is missing. -/
def ofOption : Option String → Json
  | some text => .string text
  | none => .null

end Json

end SeriesCatalog
