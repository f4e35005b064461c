/-! # Scalar types

The vocabulary of column types that row types are made of.
-/

namespace SeriesCatalog

inductive ScalarType where
  | boolean
  | tinyInt
  | smallInt
  | integer
  | bigInt
  | float
  | double
  | decimal
  | char
  | varchar
  | date
  | timestamp
  | binary
  | other
  deriving DecidableEq, Repr

namespace ScalarType

/-- All types, in the order in which messages list them. -/
def all : List ScalarType :=
  [boolean, tinyInt, smallInt, integer, bigInt, float, double, decimal, char, varchar, date,
    timestamp, binary, other]

def name : ScalarType → String
  | boolean => "boolean"
  | tinyInt => "tinyint"
  | smallInt => "smallint"
  | integer => "integer"
  | bigInt => "bigint"
  | float => "float"
  | double => "double"
  | decimal => "decimal"
  | char => "char"
  | varchar => "varchar"
  | date => "date"
  | timestamp => "timestamp"
  | binary => "binary"
  | other => "other"

def ofName? (name : String) : Option ScalarType :=
  all.find? fun t => t.name == name

def sqlName : ScalarType → String
  | boolean => "BOOLEAN"
  | tinyInt => "TINYINT"
  | smallInt => "SMALLINT"
  | integer => "INTEGER"
  | bigInt => "BIGINT"
  | float => "FLOAT"
  | double => "DOUBLE"
  | decimal => "DECIMAL"
  | char => "CHAR"
  | varchar => "VARCHAR"
  | date => "DATE"
  | timestamp => "TIMESTAMP"
  | binary => "BINARY"
  | other => "OTHER"

def isNumeric : ScalarType → Bool
  | tinyInt | smallInt | integer | bigInt | float | double | decimal => true
  | _ => false

end ScalarType

end SeriesCatalog
