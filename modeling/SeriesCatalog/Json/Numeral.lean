import SeriesCatalog.Json

/-! # Numerals of JSON

An integer of 64 bits is read as it is. Any other number is read in double precision: the digits
that fit in 64 bits make up a whole number, which is then scaled by a power of ten. Each of these
steps is rounded, so the result may differ a little from the nearest number.
-/

namespace SeriesCatalog.Json

open Text

/-- Goes on with a number as long as digits follow and the number has 64 bits. -/
def takeDigits (value : Nat) : List Char → Nat × List Char
  | [] => (value, [])
  | c :: rest =>
    if isDigit c && 10 * value + digitValue c < Nat.pow 2 64 then
      takeDigits (10 * value + digitValue c) rest
    else (value, c :: rest)

/-- A number times a power of ten, if that is not too great. Very small powers take several steps.
-/
def scaled? (x : Double) (exponent : Int) : Option Double :=
  if x.significand = 0 then some x
  else if exponent < -308 then do
    scaled? (← x.div? (← Double.ofDecimal? ⟨1, 308⟩)) (exponent + 308)
  else if exponent < 0 then do x.div? (← Double.ofDecimal? ⟨1, -exponent⟩)
  else if exponent ≤ 308 then do x.mul? (← Double.ofDecimal? ⟨1, exponent⟩)
  else none
termination_by (-exponent).toNat

def exponentOf? (text : List Char) : Option Int :=
  match text with
  | '-' :: digits => (natural? digits).map fun n => -(n : Int)
  | '+' :: digits => (natural? digits).map fun n => (n : Int)
  | digits => (natural? digits).map fun n => (n : Int)
where
  natural? (digits : List Char) : Option Nat :=
    if digits.isEmpty || !digits.all isDigit then none else some (digitsValue digits)

/-- The number of a numeral without its sign, from the digits before the point. `dropped` digits
after the number `value` did not fit. -/
def ofDigits? (negative : Bool) (value dropped : Nat) (rest : List Char) : Option Json := do
  let (value, exponent, rest) := match rest with
    | '.' :: fraction =>
      let (value, others) := takeDigits value fraction
      (value, (dropped : Int) - (fraction.length - others.length : Nat), others.dropWhile isDigit)
    | rest => (value, (dropped : Int), rest)
  let exponent ← match rest with
    | [] => some exponent
    | e :: power => if e = 'e' ∨ e = 'E' then (exponentOf? power).map (exponent + ·) else none
  return .double negative (← scaled? (← Double.ofNat? value) exponent)

/-- The number that a numeral stands for, if it is one that is not too great. -/
def ofNumeral? (numeral : String) : Option Json :=
  let (negative, text) := match numeral.toList with
    | '-' :: text => (true, text)
    | text => (false, text)
  let (value, others) := takeDigits 0 text
  let rest := others.dropWhile isDigit
  let isInteger := others.isEmpty && !text.isEmpty
  if isInteger && !negative then some (.integer value)
  else if isInteger && 0 < value && value ≤ Nat.pow 2 63 then some (.integer (-value))
  else ofDigits? negative value (others.length - rest.length) rest

end SeriesCatalog.Json
