import SeriesCatalog.Domain.Direction
import SeriesCatalog.Domain.Punycode
import SeriesCatalog.Domain.Spelling
import SeriesCatalog.Text.Blank
import SeriesCatalog.Text.Composition
import SeriesCatalog.Text.Joining

/-! # Domain names

A domain name is a row of labels between full stops. Each label is read as it is meant: its
characters as they are written in names, and a label that is spelled out in ASCII as the one that it
stands for. A label that cannot be written, or that would not show as it is, makes no name.
-/

namespace SeriesCatalog.Domain

open Text

/-- What a label in ASCII starts with if it stands for a label with other characters. -/
def asciiMark : List Char := "xn--".toList

/-- The longest text that is read as a label in ASCII, and the longest label that is written so. -/
def labelLimits : Nat × Nat := (2000, 1000)

/-- A label that may be spelled out in ASCII: its characters are those that are written, composed,
and not all of them ASCII. -/
def isSpelledOut (label : List Char) : Bool :=
  label.all isSettled && isComposed label && label.any fun c => 0x80 ≤ c.toNat

/-- The label that a text of written characters stands for. -/
def label? (text : List Char) : Option (List Char) :=
  match dropLead? asciiMark text with
  | some digits =>
    if labelLimits.1 < digits.length then none
    else (decodeLabel? digits).filter isSpelledOut
  | none =>
    if labelLimits.2 < text.length && text.any fun c => 0x80 ≤ c.toNat then none else some text

/-- The joiners of a label stand where they make a difference: after a mark that silences a vowel,
or, for the one that separates, between letters that would join. The characters before the rest of
the label are given from the last one on. -/
def joinersMatter (before : List Char) : List Char → Bool
  | [] => true
  | c :: rest =>
    let isPlaced := !isJoiner c || (before.head?.any isVirama) ||
      (c == '\u200c' && ((before.dropWhile isMark).head?.any joinsOnward) &&
        ((rest.dropWhile isMark).head?.any joinsBackward))
    isPlaced && joinersMatter (c :: before) rest

def isSound (label : List Char) : Bool :=
  !(label.head?.any startsWithMark) && joinersMatter [] label

def labels? (name : List Char) : Option (List (List Char)) := do
  let text := (← name.mapM written?).flatten
  if text.any fun c => c.toNat < 0x80 && isRefused c then none
  let labels ← (splitAll '.' text).mapM label?
  if labels.all isSound && (labels.all isOrdered || !labels.any (·.any needsOrder)) then
    some labels
  else none

end SeriesCatalog.Domain
