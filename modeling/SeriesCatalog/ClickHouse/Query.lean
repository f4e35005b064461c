import SeriesCatalog.Text.Blank

/-! # Queries to the store

The four questions that the catalog asks a ClickHouse server, and their SQL texts.
-/

namespace SeriesCatalog.ClickHouse

open Text

/-- A question to the server. -/
inductive Query where
  | names (database : String)
  | engine (database table : String)
  | columns (database table : String)
  /-- How many rows a table has, and the least and the greatest time in a column. -/
  | bounds (database table column : String)
  deriving DecidableEq, Repr

/-- A character with a backslash before it, where a string literal needs one. -/
def escapeLiteralChar (c : Char) : List Char :=
  if c ∈ ['\\', '\'', '`', '\t', '\n'] then ['\\', c] else [c]

def quoteLiteral (text : String) : String :=
  String.ofList ('\'' :: text.toList.flatMap escapeLiteralChar ++ ['\''])

/-- A name between back quotes; a back quote in the name is written twice. -/
def quoteIdentifier (name : String) : String :=
  String.ofList
    ('`' :: name.toList.flatMap (fun c => if c = '`' then ['`', '`'] else [c]) ++ ['`'])

def boundsText (database table column : String) : String :=
  "SELECT count() AS row_count, toUnixTimestamp64Milli(toDateTime64(min(" ++
    quoteIdentifier column ++ "), 3)) AS min_ms, toUnixTimestamp64Milli(toDateTime64(max(" ++
    quoteIdentifier column ++ "), 3)) AS max_ms FROM " ++ quoteIdentifier database ++ "." ++
    quoteIdentifier table

/-- The names of the columns of the answer to the bounds query. -/
def boundsFields : List Char :=
  "`row_count`,`min_ms`,`max_ms`".toList

/-- The text that a query template stands for: a doubled question mark is a question mark,
`?fields` the columns of the answer; any other question mark would need an argument, and without
one there is no text. -/
def expandTemplate? : List Char → Option (List Char)
  | '?' :: '?' :: rest => (expandTemplate? rest).map ('?' :: ·)
  | '?' :: 'f' :: 'i' :: 'e' :: 'l' :: 'd' :: 's' :: rest =>
    (expandTemplate? rest).map (boundsFields ++ ·)
  | c :: rest => if c = '?' then none else (expandTemplate? rest).map (c :: ·)
  | [] => some []

namespace Query

/-- The text that goes to the server, unless a question mark in it lacks its argument. The names
in all but the bounds query are arguments themselves, so that only the bounds query can lack one. -/
def sent? : Query → Option String
  | names database =>
    some ("SELECT name FROM system.tables WHERE database = " ++ quoteLiteral database ++
      " AND engine NOT IN ('SystemTable', 'MaterializedView') ORDER BY name")
  | engine database table =>
    some ("SELECT engine, engine_full FROM system.tables WHERE database = " ++
      quoteLiteral database ++ " AND name = " ++ quoteLiteral table)
  | columns database table =>
    some ("SELECT name, type, is_in_sorting_key FROM system.columns WHERE database = " ++
      quoteLiteral database ++ " AND table = " ++ quoteLiteral table ++ " ORDER BY position")
  | bounds database table column =>
    (expandTemplate? (boundsText database table column).toList).map String.ofList

end Query

end SeriesCatalog.ClickHouse
