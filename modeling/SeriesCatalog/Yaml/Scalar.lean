import SeriesCatalog.Yaml.Text

/-! # Scalars of YAML texts

A scalar is written plainly, in single or double quotes, or as a block of indented lines. Line ends
inside a scalar are folded: one of them stands for a blank, and of several all but the first
are kept.
-/

namespace SeriesCatalog.Yaml

/-- How a scalar is written. -/
inductive ScalarStyle where
  | plain
  | quoted
  | literal
  | folded
  deriving Repr, DecidableEq

/-- A scalar that was read, and what follows it. -/
structure ScannedScalar where
  text : List Char
  /-- The place after the scalar and the gaps that were read with it. -/
  place : Place
  rest : List Char
  brokeLine : Bool

/-- Blanks and line ends between two words of a scalar, the latest first. -/
inductive Gap where
  | none
  | blanks (latest : List Char)
  /-- There are line ends between the words; the first may be escaped. -/
  | breaks (first : Option Char) (latest : List Char)

namespace Gap

def isBreak : Gap → Bool
  | breaks .. => true
  | _ => false

/-- The gap with one more blank; after a line end blanks do not count. -/
def addBlank (c : Char) : Gap → Gap
  | none => blanks [c]
  | blanks latest => blanks (c :: latest)
  | breaks first latest => breaks first latest

/-- The gap with one more line end; blanks before it do not count. -/
def addBreak (c : Char) : Gap → Gap
  | breaks first latest => breaks first (c :: latest)
  | _ => breaks (some c) []

/-- The text, latest character first, with the folded gap after it. -/
def fold (text : List Char) : Gap → List Char
  | none => text
  | blanks latest => latest ++ text
  | breaks Option.none latest => latest ++ text
  | breaks (some first) latest =>
    if first = '\n' then (if latest.isEmpty then ' ' :: text else latest ++ text)
    else latest ++ first :: text

end Gap

/-- Characters with a meaning of their own inside brackets. -/
def isFlowMark (c : Char) : Bool :=
  c == ',' || c == '[' || c == ']' || c == '{' || c == '}'

/-- A plain scalar ends before a colon with a gap after it and, inside brackets, before a flow
mark. -/
def endsPlain (inFlow : Bool) (c : Char) (rest : List Char) : Bool :=
  (c == ':' && startsWithGap rest) || (inFlow && isFlowMark c)

/-- Inside brackets, a colon may not stand before a flow mark or a question mark. -/
def isStrayColon (inFlow : Bool) (c : Char) (rest : List Char) : Bool :=
  inFlow && c == ':' && (match rest with
    | next :: _ => isFlowMark next || next == '?'
    | [] => false)

/-- Reads a plain scalar whose lines are indented to a column, after the given text (latest
character first) and gap. It goes on until a character that ends it, a comment, a line that is not
indented enough or the mark of a document. -/
def scanPlain (inFlow : Bool) (column : Int) (text : List Char) (gap : Gap) (p : Place) :
    List Char → Option ScannedScalar
  | [] => some ⟨text.reverse, p, [], gap.isBreak⟩
  | c :: rest =>
    if isGap c then
      if gap.isBreak && p.column < column && c == '\t' then none
      else scanPlain inFlow column text (gap.addBlank c) (p.forward 1) rest
    else if isBreak c then scanPlain inFlow column text (gap.addBreak c) p.nextLine rest
    else
      let inGap := match gap with
        | .none => false
        | _ => true
      if inGap && ((!inFlow && p.column < column) || isDocumentMark p (c :: rest) || c == '#') then
        some ⟨text.reverse, p, c :: rest, gap.isBreak⟩
      else if isStrayColon inFlow c rest then none
      else if endsPlain inFlow c rest then some ⟨text.reverse, p, c :: rest, gap.isBreak⟩
      else scanPlain inFlow column (c :: gap.fold text) .none (p.past c) rest

/-- Reads a scalar in single quotes, from the place after the first one. A quote inside it is
written twice. -/
def scanSingleQuoted (text : List Char) (gap : Gap) (p : Place) :
    List Char → Option ScannedScalar
  | [] => none
  | '\'' :: '\'' :: rest => scanSingleQuoted ('\'' :: gap.fold text) .none (p.forward 2) rest
  | c :: rest =>
    if isGap c then scanSingleQuoted text (gap.addBlank c) (p.forward 1) rest
    else if isBreak c then scanSingleQuoted text (gap.addBreak c) p.nextLine rest
    else if isDocumentMark p (c :: rest) then none
    else if c = '\'' then some ⟨(gap.fold text).reverse, p.forward 1, rest, false⟩
    else scanSingleQuoted (c :: gap.fold text) .none (p.past c) rest

/-- The number that hexadecimal digits stand for. -/
def hexValues? (digits : List Char) : Option Nat :=
  digits.foldlM (fun n c => (Text.hexValue? c).map (16 * n + ·)) 0

/-- The character that a letter after a backslash stands for. -/
def shortEscape? (c : Char) : Option Char :=
  [('0', '\x00'), ('a', '\x07'), ('b', '\x08'), ('t', '\t'), ('\t', '\t'), ('n', '\n'),
    ('v', '\x0b'), ('f', '\x0c'), ('r', '\r'), ('e', '\x1b'), (' ', ' '), ('"', '"'), ('/', '/'),
    ('\\', '\\'), ('N', '\u0085'), ('_', '\u00a0'), ('L', '\u2028'), ('P', '\u2029')].lookup c

/-- How many hexadecimal digits follow a letter after a backslash. -/
def longEscape? (c : Char) : Option Nat :=
  [('x', 2), ('u', 4), ('U', 8)].lookup c

/-- Reads a scalar in double quotes, from the place after the first one. A backslash starts an
escape; before the end of a line it removes that end. `skip` characters belong to an escape that
has been read. -/
def scanDoubleQuoted (text : List Char) (gap : Gap) (p : Place) :
    (skip : Nat) → List Char → Option ScannedScalar
  | _, [] => none
  | skip + 1, _ :: rest => scanDoubleQuoted text gap (p.forward 1) skip rest
  | 0, c :: rest =>
    if isGap c then scanDoubleQuoted text (gap.addBlank c) (p.forward 1) 0 rest
    else if isBreak c then scanDoubleQuoted text (gap.addBreak c) p.nextLine 0 rest
    else if isDocumentMark p (c :: rest) then none
    else if c = '"' then some ⟨(gap.fold text).reverse, p.forward 1, rest, false⟩
    else if c = '\\' then
      match rest with
      | [] => none
      | e :: digits =>
        if isBreak e then
          scanDoubleQuoted (gap.fold text) (.breaks none []) ((p.forward 1).nextLine) 0 digits
        else
          match shortEscape? e with
          | some escaped =>
            scanDoubleQuoted (escaped :: gap.fold text) .none (p.forward 2) 0 digits
          | none =>
            match longEscape? e with
            | none => none
            | some width =>
              match hexValues? (digits.take width) with
              | none => none
              | some code =>
                if digits.length < width ∨ ¬ code.isValidChar then none
                else
                  scanDoubleQuoted (Char.ofNat code :: gap.fold text) .none (p.forward 2) width
                    digits
    else scanDoubleQuoted (c :: gap.fold text) .none (p.past c) 0 rest

/-- What is done with the line ends after the last line of a block. -/
inductive Chomping where
  | strip
  | clip
  | keep
  deriving Repr, DecidableEq

/-- The indicators of a block: how it ends and how far it is indented, in either order. -/
def blockIndicators? : List Char → Option (Chomping × Nat × List Char)
  | '+' :: rest => (indentation? rest).map fun (n, rest) => (.keep, n, rest)
  | '-' :: rest => (indentation? rest).map fun (n, rest) => (.strip, n, rest)
  | rest => do
    let (n, rest) ← indentation? rest
    match n, rest with
    | 0, _ => some (.clip, 0, rest)
    | n, '+' :: rest => some (.keep, n, rest)
    | n, '-' :: rest => some (.strip, n, rest)
    | n, rest => some (.clip, n, rest)
where
  /-- An optional digit, which may not be zero; without a digit the indentation is zero. -/
  indentation? : List Char → Option (Nat × List Char)
    | c :: rest =>
      if c = '0' then none
      else if Text.isDigit c then some (Text.digitValue c, rest)
      else some (0, c :: rest)
    | [] => some (0, [])

/-- The lines of a block before the next one with text. -/
structure BlockGap where
  breaks : List Char
  widest : Nat
  /-- The place of the text, or of what is no part of the block. -/
  place : Place
  rest : List Char

/-- Passes the blanks of the indentation and empty lines; without an indentation (zero) all blanks.
A tab may not stand in the indentation. -/
def scanBlockGap (indent : Nat) (breaks : List Char) (widest : Nat) (p : Place) :
    List Char → Option BlockGap
  | [] => some ⟨breaks, max widest p.column, p, []⟩
  | c :: rest =>
    let inIndent := indent == 0 || p.column < indent
    if inIndent && c == ' ' then scanBlockGap indent breaks widest (p.forward 1) rest
    else if inIndent && c == '\t' then none
    else if isBreak c then scanBlockGap indent (c :: breaks) (max widest p.column) p.nextLine rest
    else some ⟨breaks, max widest p.column, p, c :: rest⟩

/-- A block that is being read. -/
structure Block where
  text : List Char
  lineEnd : List Char
  /-- The ends of the empty lines after it, latest first. -/
  breaks : List Char
  startsBlank : Bool

/-- The text of a block with what stands between its latest line and the next one. -/
def Block.joined (b : Block) (folded nextBlank : Bool) : List Char :=
  if folded && b.lineEnd == ['\n'] && !b.startsBlank && !nextBlank then
    if b.breaks.isEmpty then ' ' :: b.text else b.breaks ++ b.text
  else b.breaks ++ b.lineEnd ++ b.text

/-- Reads the lines of a block that are indented to a column. There are at most `fuel` lines. -/
def scanBlockLines (folded : Bool) (indent : Nat) (b : Block) (p : Place) (rest : List Char) :
    (fuel : Nat) → Option (Block × Place × List Char)
  | 0 => some (b, p, rest)
  | fuel + 1 =>
    match rest with
    | [] => some (b, p, [])
    | c :: _ =>
      if p.column ≠ indent then some (b, p, rest)
      else
        let line := rest.takeWhile (!isBreak ·)
        let (lineEnd, afterLine, place) := match rest.dropWhile (!isBreak ·) with
          | e :: rest => ([e], rest, p.nextLine)
          | [] => ([], [], line.foldl Place.past p)
        match scanBlockGap indent [] 0 place afterLine with
        | none => none
        | some gap =>
          scanBlockLines folded indent
            ⟨line.reverse ++ b.joined folded (isGap c), lineEnd, gap.breaks, isGap c⟩
            gap.place gap.rest fuel

/-- Reads a block, from the place after its first character. It is indented deeper than `parent`,
by as much as its indicator says or as its first line shows. -/
def scanBlock (folded : Bool) (parent : Int) (p : Place) (text : List Char) :
    Option ScannedScalar := do
  let (chomping, indicated, rest) ← blockIndicators? text
  let rest := rest.dropWhile isGap
  let rest := match rest with
    | '#' :: comment => comment.dropWhile (!isBreak ·)
    | rest => rest
  let (p, rest) ← match rest with
    | [] => some (text.foldl Place.past p, [])
    | c :: after => if isBreak c then some (p.nextLine, after) else none
  let given := if indicated = 0 then 0 else (max parent 0).toNat + indicated
  let first ← scanBlockGap given [] 0 p rest
  let indent :=
    if given = 0 then max (max first.widest (parent + 1).toNat) 1 else given
  let (b, p, rest) ← scanBlockLines folded indent ⟨[], [], first.breaks, false⟩ first.place
    first.rest (rest.length + 1)
  let kept := match chomping with
    | .strip => b.text
    | .clip => b.lineEnd ++ b.text
    | .keep => b.breaks ++ b.lineEnd ++ b.text
  return ⟨kept.reverse, p, rest, true⟩

end SeriesCatalog.Yaml
