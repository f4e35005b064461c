import SeriesCatalog.Text.Blank

/-! # Table engines

The engine of a table tells whether its rows are aggregated. A summing engine may list the columns
that it sums as arguments after its name; a replicated one has its path and its replica before
them, both written as string literals.
-/

namespace SeriesCatalog.ClickHouse

open Text

/-- The engine families that matter for metrics. -/
inductive TableEngine where
  | mergeTree
  /-- Rows of one key are summed; no columns means every numeric column outside the key. -/
  | summing (columns : List String)
  | aggregating
  | other (name : String)
  deriving DecidableEq, Repr

namespace TableEngine

/-- Rows are aggregated, so that numeric values are additive. -/
def isAggregating : TableEngine → Bool
  | summing _ | aggregating => true
  | _ => false

def extendFirst (c : Char) : List (List Char) → List (List Char)
  | part :: parts => (c :: part) :: parts
  | [] => [[c]]

/-- The parts of an argument list between its commas, up to the parenthesis that closes it. The
text starts inside `depth` inner parentheses and, if `quoted`, inside a string literal, where a
backslash takes the next character with it. There are no parts without a closing parenthesis. -/
def splitParts (depth : Nat) (quoted : Bool) : List Char → Option (List (List Char))
  | [] => none
  | '\\' :: rest =>
    if quoted then
      match rest with
      | [] => none
      | c :: rest =>
        (splitParts depth quoted rest).map fun parts => extendFirst '\\' (extendFirst c parts)
    else (splitParts depth quoted rest).map (extendFirst '\\')
  | c :: rest =>
    if c = '\'' then (splitParts depth (!quoted) rest).map (extendFirst c)
    else if quoted then (splitParts depth quoted rest).map (extendFirst c)
    else if c = '(' then (splitParts (depth + 1) quoted rest).map (extendFirst c)
    else if c = ')' then
      match depth with
      | 0 => some [[]]
      | depth + 1 => (splitParts depth quoted rest).map (extendFirst c)
    else if c = ',' ∧ depth = 0 then (splitParts depth quoted rest).map ([] :: ·)
    else (splitParts depth quoted rest).map (extendFirst c)

/-- The arguments of an engine from the text after the opening parenthesis. -/
def splitArguments (text : List Char) : Option (List (List Char)) :=
  (splitParts 0 false text).map fun parts => (parts.map trim).filter (!·.isEmpty)

def isLiteral (text : List Char) : Bool :=
  text.head? == some '\''

/-- Parentheses and back quotes, which may surround a column name. -/
def isFrame (c : Char) : Bool :=
  c == '(' || c == ')' || c == '`'

/-- The text without frame characters at its ends. -/
def unframe (text : List Char) : List Char :=
  ((text.dropWhile isFrame).reverse.dropWhile isFrame).reverse

/-- The columns that the arguments of a summing engine name. -/
def columnsOf (replicated : Bool) (arguments : List (List Char)) : List String :=
  let columns := arguments.dropWhile fun argument => replicated && isLiteral argument
  let parts := (columns.flatMap (splitAll ',')).map fun part => unframe (trim part)
  (parts.filter fun part => !part.isEmpty && !isLiteral part).map String.ofList

/-- The columns that a summing engine lists: `full` is the engine with its arguments. -/
def sumColumns (engine full : String) : List String :=
  let arguments : Option (List (List Char)) := do
    let rest ← dropLead? engine.toList (trim full.toList)
    let rest ← dropLead? ['('] rest
    splitArguments rest
  columnsOf (dropLead? "Replicated".toList engine.toList).isSome (arguments.getD [])

/-- The engine with a name, and with its arguments in `full`. -/
def parse (engine full : String) : TableEngine :=
  if engine ∈ ["MergeTree", "ReplicatedMergeTree"] then mergeTree
  else if engine ∈ ["SummingMergeTree", "ReplicatedSummingMergeTree"] then
    summing (sumColumns engine full)
  else if engine ∈ ["AggregatingMergeTree", "ReplicatedAggregatingMergeTree"] then aggregating
  else other engine

end TableEngine

end SeriesCatalog.ClickHouse
