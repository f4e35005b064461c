import SeriesCatalog.Interval
import SeriesCatalog.Text.Escaped

/-! # Documents that do not fit

A document is a tree of plain values, read as a record, a list, a text and so on. A mismatch says
what was found at a place and what was expected there.
-/

namespace SeriesCatalog

/-- What stands at a place of a document. -/
inductive Found where
  | null
  | unit
  | boolean (value : Bool)
  | integer (value : Int)
  /-- An integer that needs more than 64 bits, with the name of the width it needs. -/
  | wideInteger (value : Int) (width : String)
  | float (text : String)
  | string (value : String)
  | sequence
  | map
  deriving DecidableEq, Repr

def Found.message : Found → String
  | .null => "null"
  | .unit => "unit value"
  | .boolean value => "boolean `" ++ toString value ++ "`"
  | .integer value => "integer `" ++ toString value ++ "`"
  | .wideInteger value width => "integer `" ++ toString value ++ "` as " ++ width
  | .float text => "floating point `" ++ text ++ "`"
  | .string value => "string " ++ Text.quoted value
  | .sequence => "sequence"
  | .map => "map"

/-- Why a document does not fit. -/
inductive Mismatch where
  | type (found : Found) (expected : String)
  | value (found : Found) (expected : String)
  | length (found : Nat) (expected : String)
  | unknownVariant (name : String) (known : List String)
  | missingField (name : String)
  | duplicateField (name : String)
  | interval (error : IntervalError)
  deriving DecidableEq, Repr

def Mismatch.message : Mismatch → String
  | .type found expected => "invalid type: " ++ found.message ++ ", expected " ++ expected
  | .value found expected => "invalid value: " ++ found.message ++ ", expected " ++ expected
  | .length found expected =>
    "invalid length " ++ toString found ++ ", expected " ++ expected
  | .unknownVariant name known =>
    "unknown variant `" ++ name ++ "`, expected one of " ++
      ", ".intercalate (known.map fun k => "`" ++ k ++ "`")
  | .missingField name => "missing field `" ++ name ++ "`"
  | .duplicateField name => "duplicate field `" ++ name ++ "`"
  | .interval error => error.message

/-- Why a document cannot be taken for what was expected. -/
inductive Fault where
  /-- A value does not fit. The path to its place is there once it is known; the root is a point. -/
  | misfit (path : Option String) (mismatch : Mismatch)
  | tooManyAliases
  deriving DecidableEq, Repr

/-- The words for a fault; a mismatch of the whole document stands alone. -/
def Fault.message : Fault → String
  | misfit (some path) mismatch =>
    if path = "." then mismatch.message else path ++ ": " ++ mismatch.message
  | misfit none mismatch => mismatch.message
  | tooManyAliases => "repetition limit exceeded"

/-- Why a text is not the document that was expected. -/
inductive DocumentError where
  | unreadable
  | content (fault : Fault)
  deriving DecidableEq, Repr

def DocumentError.message : DocumentError → String
  | .unreadable => "yaml syntax"
  | .content fault => fault.message

end SeriesCatalog
