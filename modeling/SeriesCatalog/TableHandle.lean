import SeriesCatalog.RowType.Codec

/-! # Table handles -/

namespace SeriesCatalog

/-- Names a table within the catalog while a query is planned, together with its row type. -/
structure TableHandle where
  qualifiedName : List String
  rowType : RowType
  deriving DecidableEq, Repr

namespace TableHandle

def name (h : TableHandle) : String :=
  h.qualifiedName.getLast?.getD ""

def toJson (h : TableHandle) : Json :=
  .object [("qualified_name", .array (h.qualifiedName.map .string)),
    ("row_type", h.rowType.toJson)]

end TableHandle

end SeriesCatalog
