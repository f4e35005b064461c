import SeriesCatalog.Yaml.Tag

/-! # Tokens of YAML texts

A YAML text is a sequence of tokens; the structure that indentation shows has tokens of its own.
Whether a scalar or a collection is the key of a mapping is only known when the colon after it has
been read. So each place where such a key may start gets a slot among the tokens, which the colon
fills; slots that stay empty count for nothing.
-/

namespace SeriesCatalog.Yaml

inductive Token where
  | directive (directive : Directive)
  | documentStart
  | documentEnd
  | blockSequenceStart
  | blockMappingStart
  | blockEnd
  | flowSequenceStart
  | flowSequenceEnd
  | flowMappingStart
  | flowMappingEnd
  | blockEntry
  | flowEntry
  | key
  | value
  | alias (name : String)
  | anchor (name : String)
  | tag (tag : WrittenTag)
  | scalar (style : ScalarStyle) (text : String)
  deriving Repr, DecidableEq

/-- A place where a key may have started. -/
structure PossibleKey where
  slot : Nat
  required : Bool
  place : Place
  deriving Repr

/-- A text that is being cut into tokens. -/
structure Lexer where
  rest : List Char
  place : Place
  /-- The tokens so far, each slot with the tokens that it holds. -/
  slots : Array (List Token)
  /-- The column of the innermost block collection, or a column before all of them. -/
  indent : Int
  outer : List Int
  keyAllowed : Bool
  /-- The possible key of each level of brackets, innermost first; the last is outside of all. -/
  keys : List (Option PossibleKey)
  deriving Repr

namespace Lexer

def start (text : List Char) : Lexer :=
  ⟨text, Place.start, #[], -1, [], true, [none]⟩

def inFlow (l : Lexer) : Bool :=
  1 < l.keys.length

def emit (l : Lexer) (t : Token) : Lexer :=
  { l with slots := l.slots.push [t] }

def pass (l : Lexer) (n : Nat) : Lexer :=
  { l with rest := l.rest.drop n, place := l.place.forward n }

def key? (l : Lexer) : Option PossibleKey :=
  l.keys.head?.join

/-- The lexer with another possible key at the innermost level. -/
def withKey (l : Lexer) (key : Option PossibleKey) : Lexer :=
  { l with keys := key :: l.keys.tail }

/-- Gives up the possible key of the innermost level; a required one cannot be given up. -/
def dropKey? (l : Lexer) : Option Lexer :=
  if l.key?.any (·.required) then none else some (l.withKey none)

def noteKey? (l : Lexer) : Option Lexer :=
  if l.keyAllowed then do
    let l ← l.dropKey?
    let required := !l.inFlow && l.indent == l.place.column
    some { l.withKey (some ⟨l.slots.size, required, l.place⟩) with slots := l.slots.push [] }
  else some l

/-- A key has to stand in one line with its colon, which follows within 1024 octets. -/
def isStale (l : Lexer) (k : PossibleKey) : Bool :=
  k.place.line < l.place.line || k.place.octets + 1024 < l.place.octets

/-- Gives up the possible keys that are too far away. -/
def dropStaleKeys? (l : Lexer) : Option Lexer :=
  if l.keys.any fun key => key.any fun k => l.isStale k && k.required then none
  else some { l with keys := l.keys.map fun key => key.filter fun k => !l.isStale k }

/-- Ends the block collections that start behind a column. -/
def unroll (column : Int) (l : Lexer) : Lexer :=
  if l.inFlow then l else close l.indent l.outer l.slots
where
  /-- Closes the innermost collections, one after the other. -/
  close (indent : Int) (outer : List Int) (slots : Array (List Token)) : Lexer :=
    if column < indent then
      match outer with
      | next :: outer => close next outer (slots.push [.blockEnd])
      | [] => { l with indent := -1, outer := [], slots := slots.push [.blockEnd] }
    else { l with indent, outer, slots }

/-- Starts a block collection at a column behind the innermost one. The token of its start goes
before the last one of a slot, or is appended. -/
def roll (l : Lexer) (column : Nat) (start : Token) (slot : Option Nat) : Lexer :=
  if !l.inFlow && l.indent < column then
    let slots := match slot with
      | some slot => l.slots.modify slot (start :: ·)
      | none => l.slots.push [start]
    { l with indent := column, outer := l.indent :: l.outer, slots }
  else l

/-- Passes blanks, comments and line ends. Tabs count as blanks where no key may start. After the
end of a line a key may start, but not inside brackets. A mark of the byte order may start a line;
it takes up a column. -/
def skipGaps (inFlow : Bool) (keyAllowed inComment : Bool) (p : Place) :
    List Char → List Char × Place × Bool
  | [] => ([], p, keyAllowed)
  | c :: rest =>
    if isBreak c then skipGaps inFlow (keyAllowed || !inFlow) false p.nextLine rest
    else if inComment || c = '#' then skipGaps inFlow keyAllowed true (p.past c) rest
    else if c = ' ' ∨ (c = '\t' ∧ (inFlow || !keyAllowed)) ∨ (c = '\uFEFF' ∧ p.column = 0) then
      skipGaps inFlow keyAllowed false (p.past c) rest
    else (c :: rest, p, keyAllowed)

def toToken? (l : Lexer) : Option Lexer := do
  let (rest, place, keyAllowed) := skipGaps l.inFlow l.keyAllowed false l.place l.rest
  let l ← { l with rest, place, keyAllowed }.dropStaleKeys?
  some (l.unroll place.column)

/-- Ends all block collections before the end of the text or a line that belongs to no document. -/
def endBlocks? (l : Lexer) : Option Lexer := do
  let l ← (l.unroll (-1)).dropKey?
  some { l with keyAllowed := false }

def directive? (l : Lexer) : Option Lexer := do
  let l ← l.endBlocks?
  let (directive, rest) ← scanDirective? (l.rest.drop 1)
  some ({ l with rest := rest.drop 1, place := l.place.nextLine }.emit (.directive directive))

/-- The mark of the start or the end of a document. -/
def documentMark? (l : Lexer) (t : Token) : Option Lexer := do
  let l ← l.endBlocks?
  some ((l.pass 3).emit t)

def openFlow? (l : Lexer) (t : Token) : Option Lexer := do
  let l ← l.noteKey?
  some ({ l with keys := none :: l.keys, keyAllowed := true }.pass 1 |>.emit t)

def closeFlow? (l : Lexer) (t : Token) : Option Lexer := do
  let l ← l.dropKey?
  let keys := if l.inFlow then l.keys.tail else l.keys
  some ({ l with keys, keyAllowed := false }.pass 1 |>.emit t)

def flowEntry? (l : Lexer) : Option Lexer := do
  let l ← l.dropKey?
  some ({ l with keyAllowed := true }.pass 1 |>.emit .flowEntry)

def blockEntry? (l : Lexer) : Option Lexer := do
  if !l.inFlow && !l.keyAllowed then none
  let l ← (l.roll l.place.column .blockSequenceStart none).dropKey?
  some ({ l with keyAllowed := true }.pass 1 |>.emit .blockEntry)

def explicitKey? (l : Lexer) : Option Lexer := do
  if !l.inFlow && !l.keyAllowed then none
  let l ← (l.roll l.place.column .blockMappingStart none).dropKey?
  some ({ l with keyAllowed := !l.inFlow }.pass 1 |>.emit .key)

def value? (l : Lexer) : Option Lexer :=
  match l.key? with
  | some k =>
    let l := { l with slots := l.slots.modify k.slot fun _ => [.key] }
    let l := l.roll k.place.column .blockMappingStart (some k.slot)
    some ({ l.withKey none with keyAllowed := false }.pass 1 |>.emit .value)
  | none =>
    if !l.inFlow && !l.keyAllowed then none
    else
      let l := l.roll l.place.column .blockMappingStart none
      some ({ l with keyAllowed := !l.inFlow }.pass 1 |>.emit .value)

/-- The name of a node, or a name that stands for a node. -/
def nodeName? (l : Lexer) (t : String → Token) : Option Lexer := do
  let l ← l.noteKey?
  let name := (l.rest.drop 1).takeWhile isNameChar
  let after := (l.rest.drop 1).dropWhile isNameChar
  let ends := match after with
    | [] => true
    | c :: _ => isGapOrBreak c || "?:,]\x7d%@`".toList.contains c
  if name.isEmpty || !ends then none
  some ({ l with keyAllowed := false }.pass (name.length + 1) |>.emit (t (String.ofList name)))

def tag? (l : Lexer) : Option Lexer := do
  let l ← l.noteKey?
  let (tag, rest) ← scanTag? l.inFlow (l.rest.drop 1)
  some ({ l with keyAllowed := false }.pass (l.rest.length - rest.length) |>.emit (.tag tag))

def takeScalar (l : Lexer) (style : ScalarStyle) (s : ScannedScalar) : Lexer :=
  { l with rest := s.rest, place := s.place, keyAllowed := s.brokeLine }.emit
    (.scalar style (String.ofList s.text))

def quotedScalar? (l : Lexer)
    (scan : Place → List Char → Option ScannedScalar) : Option Lexer := do
  let l ← l.noteKey?
  (scan (l.place.forward 1) (l.rest.drop 1)).map (l.takeScalar .quoted)

def blockScalar? (l : Lexer) (style : ScalarStyle) : Option Lexer := do
  let l ← l.dropKey?
  (scanBlock (style == .folded) l.indent (l.place.forward 1) (l.rest.drop 1)).map
    (l.takeScalar style)

def plainScalar? (l : Lexer) : Option Lexer := do
  let l ← l.noteKey?
  (scanPlain l.inFlow (l.indent + 1) [] .none l.place l.rest).map (l.takeScalar .plain)

/-- Characters that a plain scalar cannot start with, unless a few of them are followed by text. -/
def isIndicator (c : Char) : Bool :=
  "-?:,[]\x7b\x7d#&*!|>'\"%@`".toList.contains c

def startsPlain (inFlow : Bool) (c : Char) (rest : List Char) : Bool :=
  !(isIndicator c || isGapOrBreak c) || (c == '-' && !(rest.head?.any isGap)) ||
    (!inFlow && (c == '?' || c == ':') && !startsWithGap rest)

def token? (l : Lexer) : Option Lexer :=
  match l.rest with
  | [] => l.endBlocks?
  | c :: rest =>
    let gapFollows := startsWithGap rest
    if l.place.column = 0 ∧ c = '%' then l.directive?
    else if isDocumentMark l.place l.rest then
      l.documentMark? (if c = '-' then .documentStart else .documentEnd)
    else if c = '[' then l.openFlow? .flowSequenceStart
    else if c = '{' then l.openFlow? .flowMappingStart
    else if c = ']' then l.closeFlow? .flowSequenceEnd
    else if c = '}' then l.closeFlow? .flowMappingEnd
    else if c = ',' then l.flowEntry?
    else if c = '-' ∧ gapFollows then l.blockEntry?
    else if c = '?' ∧ (l.inFlow || gapFollows) then l.explicitKey?
    else if c = ':' ∧ (l.inFlow || gapFollows) then l.value?
    else if c = '*' then l.nodeName? .alias
    else if c = '&' then l.nodeName? .anchor
    else if c = '!' then l.tag?
    else if c = '|' ∧ !l.inFlow then l.blockScalar? .literal
    else if c = '>' ∧ !l.inFlow then l.blockScalar? .folded
    else if c = '\'' then l.quotedScalar? (scanSingleQuoted [] .none)
    else if c = '"' then l.quotedScalar? fun p text => scanDoubleQuoted [] .none p 0 text
    else if startsPlain l.inFlow c rest then l.plainScalar?
    else none

/-- Reads tokens up to the end of the text. There are at most `fuel` of them. -/
def run? (l : Lexer) : (fuel : Nat) → Option Lexer
  | 0 => none
  | fuel + 1 => do
    let l ← l.toToken?
    let after ← l.token?
    if l.rest.isEmpty then some after else run? after fuel

end Lexer

/-- The tokens of a text; there are none if the text cannot be cut into tokens. -/
def tokens? (text : List Char) : Option (List Token) :=
  ((Lexer.start text).run? (text.length + 1)).map fun l => l.slots.toList.flatten

end SeriesCatalog.Yaml
