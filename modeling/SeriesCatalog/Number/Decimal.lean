import SeriesCatalog.Text.Digits

/-! # Decimal numbers

A decimal number is a whole number of units, each of them a power of ten. It is written out in full,
or with a power of ten where that would be long.
-/

namespace SeriesCatalog

/-- `digits` times ten to the power of `exponent`. -/
structure Decimal where
  digits : Nat
  exponent : Int
  deriving DecidableEq, Repr

namespace Decimal

/-- Moves the zeros that end the digits into the exponent. -/
def strip (digits : Nat) (exponent : Int) : Decimal :=
  if digits ≠ 0 ∧ digits % 10 = 0 then strip (digits / 10) (exponent + 1) else ⟨digits, exponent⟩

/-- The number of digits before the point; negative if zeros follow the point. -/
def wholeDigits (d : Decimal) : Int :=
  (Text.numeral d.digits).length + d.exponent

/-- The number in full, with a digit at least on both sides of the point. -/
def positional (d : Decimal) : String :=
  let digits := Text.numeral d.digits
  let zeros (n : Int) : List Char := List.replicate n.toNat '0'
  String.ofList <|
    if 0 ≤ d.exponent then digits ++ zeros d.exponent ++ ['.', '0']
    else if 0 < d.wholeDigits then
      digits.take d.wholeDigits.toNat ++ '.' :: digits.drop d.wholeDigits.toNat
    else '0' :: '.' :: zeros (-d.wholeDigits) ++ digits

/-- The number with a point after its first digit, if there are more, and a power of ten. -/
def scientific (d : Decimal) : String :=
  let power := d.wholeDigits - 1
  let sign := if power < 0 then "-" else "+"
  let digits := match Text.numeral d.digits with
    | first :: second :: others => first :: '.' :: second :: others
    | digits => digits
  String.ofList digits ++ "e" ++ sign ++ toString power.natAbs

/-- The number in full, unless its point is far from its digits. -/
def compact (d : Decimal) : String :=
  if -5 < d.wholeDigits ∧ d.wholeDigits ≤ 16 then d.positional else d.scientific

end Decimal

end SeriesCatalog
