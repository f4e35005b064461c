/-! # Control sequences of terminals

A text for a terminal may hold sequences of characters that do not show but tell the terminal what
to do. A sequence starts with the escape character; what comes next says how it ends. Texts that
are not for a terminal go without them, and without all other controls but white space.
-/

namespace SeriesCatalog.Terminal

/-- What the next character of a text is part of. -/
inductive Mode where
  | text
  | escape
  /-- A sequence without arguments, after its first character. -/
  | escapeMiddle
  | numbered
  /-- A sequence with a text as its argument, which the octet 9C ends. -/
  | worded
  /-- A sequence with a title as its argument, which the bell character ends. -/
  | titled
  deriving Repr, DecidableEq

def isSpacing (c : Char) : Bool :=
  c == '\t' || c == '\n' || c == '\x0c' || c == '\r'

namespace Mode

/-- The mode after a character, if the character changes it. -/
def next? (m : Mode) (c : Char) : Option Mode :=
  let isBetween (first last : Char) : Bool := first ≤ c && c ≤ last
  if c == '\x18' || c == '\x1a' then some text
  else if c == '\x1b' then some escape
  else
    match m with
    | text => none
    | escape =>
      if isBetween ' ' '/' then some escapeMiddle
      else if c == '[' then some numbered
      else if c == ']' then some titled
      else if c == 'P' || c == 'X' || c == '^' || c == '_' then some worded
      else if isBetween '0' '~' then some text
      else none
    | escapeMiddle => if isBetween '0' '~' then some text else none
    | numbered => if isBetween '@' '~' then some text else none
    | worded => if (String.singleton c).toUTF8.toList.contains 0x9C then some text else none
    | titled => if c == '\x07' then some text else none

/-- A character shows in a mode: in the text itself all but controls, and white space also within
most sequences. -/
def shows (m : Mode) (c : Char) : Bool :=
  match m with
  | text => isSpacing c || (' ' ≤ c && c != '\x7f')
  | escape | escapeMiddle | numbered => isSpacing c
  | worded | titled => false

end Mode

/-- The characters of a text that show. After white space within a sequence all is taken for the
text itself, as long as it can be; if it ends with a control, the sequence goes on where it was
left, unless there was a character beyond ASCII. -/
def visible (m : Mode) (isShowing : Bool) : List Char → List Char
  | [] => []
  | c :: rest =>
    if Mode.shows (if isShowing then .text else m) c then
      c :: visible (if c.toNat < 0x80 then m else .text) true rest
    else
      let m := if isShowing then (Mode.text.next? c).getD m else m
      visible ((m.next? c).getD m) false rest

def bare (text : String) : String :=
  String.ofList (visible .text false text.toList)

end SeriesCatalog.Terminal
