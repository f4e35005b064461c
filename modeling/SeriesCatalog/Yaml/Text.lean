import SeriesCatalog.Text.Blank
import SeriesCatalog.Text.Digits

/-! # Characters of YAML texts

Which characters a YAML text may hold, which of them end a line, and places in a text. The usual
line ends are made one before anything else is read; the line and paragraph separators of Unicode
end a line too, but stay what they are.
-/

namespace SeriesCatalog.Yaml

def isReadable (c : Char) : Bool :=
  let n := c.toNat
  n == 0x09 || n == 0x0A || n == 0x0D || (0x20 ≤ n && n ≤ 0x7E) || n == 0x85 ||
    (0xA0 ≤ n && n ≤ 0xFFFD) || 0x10000 ≤ n

/-- A character that ends a line, once the usual line ends are made one. -/
def isBreak (c : Char) : Bool :=
  c == '\n' || c == '\u2028' || c == '\u2029'

def isGap (c : Char) : Bool :=
  c == ' ' || c == '\t'

/-- A gap or the end of a line. -/
def isGapOrBreak (c : Char) : Bool :=
  isGap c || isBreak c

/-- The text goes on with a gap, the end of a line, or not at all. -/
def startsWithGap : List Char → Bool
  | [] => true
  | c :: _ => isGapOrBreak c

/-- A letter of names: ASCII letters and digits, the underscore and the hyphen. -/
def isNameChar (c : Char) : Bool :=
  c.isAlphanum || c == '_' || c == '-'

/-- The text with one character for each line end. -/
def unifyBreaks : List Char → List Char
  | '\r' :: '\n' :: rest => '\n' :: unifyBreaks rest
  | c :: rest => (if c = '\r' ∨ c = '\u0085' then '\n' else c) :: unifyBreaks rest
  | [] => []

/-- The characters of a text; there are none if it holds a character that it may not hold. -/
def readableText? (text : String) : Option (List Char) :=
  if text.toList.all isReadable then some (unifyBreaks text.toList) else none

structure Place where
  line : Nat
  column : Nat
  octets : Nat
  deriving Repr, DecidableEq

namespace Place

def start : Place := ⟨0, 0, 0⟩

/-- The place after a number of ASCII characters of the line. -/
def forward (p : Place) (n : Nat) : Place := ⟨p.line, p.column + n, p.octets + n⟩

def past (p : Place) (c : Char) : Place := ⟨p.line, p.column + 1, p.octets + c.utf8Size⟩

def nextLine (p : Place) : Place := ⟨p.line + 1, 0, 0⟩

end Place

/-- The three characters that start a document, or the three that end one, stand alone at the start
of a line. -/
def isDocumentMark (p : Place) : List Char → Bool
  | a :: b :: c :: rest =>
    p.column == 0 && a == b && b == c && (a == '-' || a == '.') && startsWithGap rest
  | _ => false

end SeriesCatalog.Yaml
