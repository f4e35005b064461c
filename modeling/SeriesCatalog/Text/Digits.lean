/-! # Decimal digits

Numbers as decimal digits: the plain numeral, the numeral of a fixed width, and the value that a
row of digits denotes.
-/

namespace SeriesCatalog.Text

def digit (n : Nat) : Char :=
  Char.ofNat (48 + n % 10)

def isDigit (c : Char) : Bool :=
  '0' ≤ c && c ≤ '9'

/-- The number below ten that a digit stands for. -/
def digitValue (c : Char) : Nat :=
  c.toNat - 48

/-- The number that a row of digits stands for. -/
def digitsValue (digits : List Char) : Nat :=
  digits.foldl (fun n c => 10 * n + digitValue c) 0

def hexValue? (c : Char) : Option Nat :=
  if isDigit c then some (c.toNat - 48)
  else if 'a' ≤ c ∧ c ≤ 'f' then some (c.toNat - 87)
  else if 'A' ≤ c ∧ c ≤ 'F' then some (c.toNat - 55)
  else none

/-- The last `width` digits of a number, with leading zeros. -/
def fixedNumeral : (width n : Nat) → List Char
  | 0, _ => []
  | width + 1, n => fixedNumeral width (n / 10) ++ [digit n]

/-- The decimal numeral of a number, without leading zeros. -/
def numeral (n : Nat) : List Char :=
  if n < 10 then [digit n] else numeral (n / 10) ++ [digit n]

/-- The numeral of a number, filled up with leading zeros to a least width. -/
def paddedNumeral (width n : Nat) : List Char :=
  let digits := numeral n
  List.replicate (width - digits.length) '0' ++ digits

/-- The leading digits of a text and what follows them. -/
def spanDigits (text : List Char) : List Char × List Char :=
  (text.takeWhile isDigit, text.dropWhile isDigit)

def twoDigits? : List Char → Option (Nat × List Char)
  | a :: b :: rest =>
    if isDigit a && isDigit b then some (digitsValue [a, b], rest) else none
  | _ => none

def fourDigits? : List Char → Option (Nat × List Char)
  | a :: b :: c :: d :: rest =>
    if [a, b, c, d].all isDigit then some (digitsValue [a, b, c, d], rest) else none
  | _ => none

def oneChar? (c : Char) : List Char → Option (List Char)
  | d :: rest => if d = c then some rest else none
  | [] => none

end SeriesCatalog.Text
