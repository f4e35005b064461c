import SeriesCatalog.Text.Alphanumeric
import SeriesCatalog.Text.Digits
import SeriesCatalog.Text.Mark

/-! # Directions of labels

A domain name in which some label is written from right to left shows in the right order only if no
label mixes directions, and if each one starts and ends with characters that have one.
-/

namespace SeriesCatalog.Domain

open Text

/-- The direction of a character. -/
inductive Direction where
  | left
  | right
  | european
  | arabic
  | mark
  | neutral
  deriving Repr, DecidableEq

/-- The ranges of the scripts that are written from right to left. -/
def rightRanges : List (Nat × Nat) :=
  [(0x590, 0x8FF), (0xFB1D, 0xFDFF), (0xFE70, 0xFEFF), (0x10800, 0x10FFF), (0x1E800, 0x1EFFF)]

/-- The ranges of the digits of the Arabic form. -/
def arabicRanges : List (Nat × Nat) :=
  [(0x600, 0x605), (0x660, 0x669), (0x66B, 0x66C), (0x6DD, 0x6DD), (0x890, 0x891), (0x8E2, 0x8E2),
    (0x10D30, 0x10D39), (0x10D40, 0x10D49), (0x10E60, 0x10E7E)]

/-- The ranges of the digits of the European form beyond ASCII. -/
def europeanRanges : List (Nat × Nat) :=
  [(0x6F0, 0x6F9), (0x102E1, 0x102FB)]

/-- The ranges of the signs among the scripts that are written from right to left. -/
def neutralRanges : List (Nat × Nat) :=
  [(0x606, 0x607), (0x609, 0x60A), (0x60C, 0x60C), (0x60E, 0x60F), (0x66A, 0x66A), (0x6DE, 0x6DE),
    (0x6E9, 0x6E9), (0x7F6, 0x7F9), (0xFD3E, 0xFD4F), (0xFDCF, 0xFDCF), (0xFDFD, 0xFDFF),
    (0x1091F, 0x1091F), (0x10B39, 0x10B3F), (0x10D6E, 0x10D6E), (0x1EEF0, 0x1EEF1)]

def direction (c : Char) : Direction :=
  let n := c.toNat
  let isIn (ranges : List (Nat × Nat)) : Bool :=
    ranges.any fun (first, last) => first ≤ n && n ≤ last
  if isMark c then .mark
  else if isDigit c || isIn europeanRanges then .european
  else if isIn arabicRanges then .arabic
  else if isIn neutralRanges then .neutral
  else if isIn rightRanges then .right
  else if isAlphanumeric c then .left
  else .neutral

/-- A character that only a name with labels from right to left has. -/
def needsOrder (c : Char) : Bool :=
  direction c == .right || direction c == .arabic

/-- The label keeps its order: it starts with a letter, goes on in the direction of that letter, and
ends with a letter of that direction or a digit, perhaps with marks after it. Only one form of
digits goes with letters from right to left, and only the European one with letters from left to
right. -/
def isOrdered (label : List Char) : Bool :=
  let directions := label.map direction
  let last := ((directions.reverse.dropWhile (· == .mark)).head?).getD .neutral
  match directions with
  | [] => true
  | .left :: rest =>
    (last == .left || last == .european) && rest.all fun d => d != .right && d != .arabic
  | .right :: rest =>
    (last == .right || last == .european || last == .arabic) && rest.all (· != .left) &&
      !(rest.contains .european && rest.contains .arabic)
  | _ => false

end SeriesCatalog.Domain
