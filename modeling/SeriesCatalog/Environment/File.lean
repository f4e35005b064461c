import SeriesCatalog.Environment
import SeriesCatalog.Text.Alphanumeric
import SeriesCatalog.Text.Blank

/-! # Files of environment variables

Each line of such a file sets a variable, `NAME=value`, that the environment does not set already.
A value may be quoted, then it may go on over several lines, and it may refer to other variables.
The lines before one that cannot be read have their effect all the same.
-/

namespace SeriesCatalog.EnvironmentFile

open Text

/-- Where the reader of a line is. -/
inductive LineState where
  | word
  | escape
  | single
  | singleEscape
  | double
  | doubleEscape
  | blank
  deriving DecidableEq, Repr

/-- How a line ends: in a state, or with a comment that starts after a number of characters. -/
inductive LineEnd where
  | state (s : LineState)
  | comment (start : Nat)
  deriving DecidableEq, Repr

/-- Outside of quotes, the state after a character that is no blank. -/
def wordState (c : Char) : LineState :=
  if c = '\\' then .escape
  else if c = '"' then .double
  else if c = '\'' then .single
  else .word

/-- Follows a line from a state; `index` characters have been read. -/
def lineEnd (s : LineState) (index : Nat) : List Char → LineEnd
  | [] => .state s
  | c :: rest =>
    match s with
    | .blank =>
      if c = '#' then .comment index else lineEnd (wordState c) (index + 1) rest
    | .escape => lineEnd .word (index + 1) rest
    | .word =>
      if isBlank c && c != '\n' && c != '\r' then lineEnd .blank (index + 1) rest
      else lineEnd (wordState c) (index + 1) rest
    | .double =>
      lineEnd (if c = '\\' then .doubleEscape else if c = '"' then .word else .double)
        (index + 1) rest
    | .doubleEscape => lineEnd .double (index + 1) rest
    | .single =>
      lineEnd (if c = '\\' then .singleEscape else if c = '\'' then .word else .single)
        (index + 1) rest
    | .singleEscape => lineEnd .single (index + 1) rest

/-- The line without the characters that end it. -/
def dropLineEnd (line : List Char) : List Char :=
  match line.reverse with
  | '\n' :: '\r' :: before => before.reverse
  | '\n' :: before => before.reverse
  | _ => line

/-- Joins lines as long as a quote is open. Lines that are comments are empty. A line that is no
text, or that never ends, is none. -/
def joinLines (s : LineState) (begun : List Char) :
    List (Option (List Char)) → List (Option (List Char))
  | [] => if s = .word then [] else [none]
  | none :: _ => [none]
  | some line :: rest =>
    let joined := begun ++ line
    if (trimStart joined).head? = some '#' then some [] :: joinLines .word [] rest
    else
      match lineEnd s 0 line with
      | .state .word => some (dropLineEnd joined) :: joinLines .word [] rest
      | .comment start => some (joined.take (begun.length + start)) :: joinLines .word [] rest
      | .state s => joinLines s joined rest

/-- What a value may refer to: the variable of a name. -/
abbrev Lookup := String → String

/-- Where the reader of a value is; `quoted` tells that double quotes are open. -/
inductive ValueState where
  | plain (quoted : Bool)
  | single
  | escape (quoted : Bool)
  | name (quoted : Bool) (latest : List Char)
  /-- In the name of a variable between braces, latest character first. -/
  | braced (quoted : Bool) (latest : List Char)
  | after

/-- Reads a value; `value` is what has been read, latest character first. -/
def readValue? (lookup : Lookup) (s : ValueState) (value : List Char) :
    List Char → Option (List Char)
  | [] =>
    match s with
    | .single | .braced .. | .plain true | .escape true | .name true _ => none
    | .name false latest => some (value.reverse ++ resolved latest)
    | _ => some value.reverse
  | c :: rest =>
    match s with
    | .after =>
      if c = ' ' ∨ c = '\t' then readValue? lookup .after value rest
      else if c = '#' then some value.reverse
      else none
    | .escape quoted =>
      if ['\\', '\'', '"', '$', ' '].contains c then
        readValue? lookup (.plain quoted) (c :: value) rest
      else if c = 'n' then readValue? lookup (.plain quoted) ('\n' :: value) rest
      else none
    | .single =>
      if c = '\'' then readValue? lookup (.plain false) value rest
      else readValue? lookup .single (c :: value) rest
    | .name quoted latest =>
      if isAlphanumeric c then readValue? lookup (.name quoted (c :: latest)) value rest
      else if c = '\x7b' ∧ latest.isEmpty then readValue? lookup (.braced quoted []) value rest
      else
        let value := (resolved latest).reverse ++ value
        if c = '$' then readValue? lookup (.name quoted []) value rest
        else readValue? lookup (.plain quoted) (c :: value) rest
    | .braced quoted latest =>
      if c = '\x7d' then
        readValue? lookup (.plain quoted) ((resolved latest).reverse ++ value) rest
      else readValue? lookup (.braced quoted (c :: latest)) value rest
    | .plain quoted =>
      if c = '$' then readValue? lookup (.name quoted []) value rest
      else if c = '\\' then readValue? lookup (.escape quoted) value rest
      else if c = '"' then readValue? lookup (.plain (!quoted)) value rest
      else if quoted then readValue? lookup (.plain quoted) (c :: value) rest
      else if c = '\'' then readValue? lookup .single value rest
      else if c = ' ' ∨ c = '\t' then readValue? lookup .after value rest
      else readValue? lookup (.plain quoted) (c :: value) rest
where
  resolved (latest : List Char) : List Char :=
    (lookup (String.ofList latest.reverse)).toList

/-- Reads the name of a variable: a letter or an underscore, then letters, digits, underscores and
points. -/
def readName? (text : List Char) : Option (List Char × List Char) :=
  match text with
  | c :: _ =>
    if c.isAlpha || c == '_' then
      let isName (c : Char) : Bool := c.isAlphanum || c == '_' || c == '.'
      some (text.takeWhile isName, text.dropWhile isName)
    else none
  | [] => none

inductive Setting where
  | nothing
  | variable (name value : String)

/-- Reads a line; `export` may stand before the name. -/
def readLine? (lookup : Lookup) (line : List Char) : Option Setting :=
  let text := trimStart (trimEnd line)
  if text.isEmpty ∨ text.head? = some '#' then some .nothing
  else do
    let (name, rest) ← readName? text
    let rest := trimStart rest
    let (name, rest) ←
      if name = "export".toList ∧ rest.head? ≠ some '=' then do
        let (name, rest) ← readName? rest
        some (name, trimStart rest)
      else some (name, rest)
    let rest := trimStart (← oneChar? '=' rest)
    if rest.isEmpty ∨ rest.head? = some '#' then some (.variable (String.ofList name) "")
    else
      let value ← readValue? lookup (.plain false) [] rest
      some (.variable (String.ofList name) (String.ofList value))

/-- The environment after lines in order, up to the first that cannot be read. The variables of the
file are kept, since a later line may refer to one that the environment had already. -/
def applyLines (e : Environment) (fromFile : List (String × String)) :
    List (Option (List Char)) → Environment
  | some line :: rest =>
    let lookup (name : String) : String :=
      ((e.text? name).orElse fun _ => fromFile.lookup name).getD ""
    match readLine? lookup line with
    | none => e
    | some .nothing => applyLines e fromFile rest
    | some (.variable name value) =>
      applyLines (if (e.text? name).isSome then e else e.set name value)
        ((name, value) :: fromFile) rest
  | _ => e

/-- The lines of a file with the characters that end them; a line that is no text is none. -/
def physicalLines (bytes : List UInt8) : List (Option (List Char)) :=
  (splitBytes bytes).map fun line =>
    (String.fromUTF8? ⟨line.toArray⟩).map String.toList
where
  splitBytes : List UInt8 → List (List UInt8)
    | [] => []
    | b :: rest =>
      if b = 10 then [b] :: splitBytes rest
      else
        match splitBytes rest with
        | line :: lines => (b :: line) :: lines
        | [] => [[b]]

/-- The environment with the variables of a file, which may start with a mark of the byte order. -/
def load (e : Environment) (bytes : List UInt8) : Environment :=
  let bytes := match bytes with
    | 0xEF :: 0xBB :: 0xBF :: rest => rest
    | bytes => bytes
  applyLines e [] (joinLines .word [] (physicalLines bytes))

end SeriesCatalog.EnvironmentFile
