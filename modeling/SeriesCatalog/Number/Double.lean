import SeriesCatalog.Number.Decimal

/-! # Numbers in double precision

A number in double precision has 53 significant bits. A decimal number stands for the nearest of
them, and each of them is written with the fewest decimal digits that stand for it.
-/

namespace SeriesCatalog

/-- `significand` times two to the power of `exponent`. -/
structure Double where
  significand : Nat
  exponent : Int
  deriving DecidableEq, Repr

namespace Double

def leastExponent : Int := -1074

def greatestExponent : Int := 971

/-- Two to a power; one if the power is negative. -/
def twoPower (exponent : Int) : Nat :=
  Nat.pow 2 exponent.toNat

/-- Ten to a power; one if the power is negative. -/
def tenPower (exponent : Int) : Nat :=
  Nat.pow 10 exponent.toNat

/-- A quotient rounded to the nearest number, a tie to the even one. -/
def roundDiv (num den : Nat) : Nat :=
  let low := num / den
  let left := num % den
  if den < 2 * left ∨ (den = 2 * left ∧ low % 2 = 1) then low + 1 else low

/-- A quotient as a number in double precision, the nearest one, if it is not too great. -/
def ofQuotient? (num den : Nat) : Option Double :=
  let guess : Int := (num.log2 : Int) - den.log2 - 53
  let isSmall := num * twoPower (-guess) < twoPower 53 * den * twoPower guess
  let exponent := max leastExponent (if isSmall then guess else guess + 1)
  let rounded := roundDiv (num * twoPower (-exponent)) (den * twoPower exponent)
  let x : Double :=
    if rounded = twoPower 53 then ⟨twoPower 52, exponent + 1⟩ else ⟨rounded, exponent⟩
  if x.exponent ≤ greatestExponent then some x else none

/-- The nearest number to a natural number, if that is not too great. -/
def ofNat? (n : Nat) : Option Double :=
  ofQuotient? n 1

/-- The product of two numbers, rounded, if it is not too great. -/
def mul? (x y : Double) : Option Double :=
  let exponent := x.exponent + y.exponent
  ofQuotient? (x.significand * y.significand * twoPower exponent) (twoPower (-exponent))

/-- The quotient of two numbers, rounded, if it is not too great. -/
def div? (x y : Double) : Option Double :=
  let exponent := x.exponent - y.exponent
  ofQuotient? (x.significand * twoPower exponent) (y.significand * twoPower (-exponent))

/-- The nearest number in double precision, if the decimal number is not too great. Powers of ten
that decide the answer alone are not computed. -/
def ofDecimal? (d : Decimal) : Option Double :=
  if d.digits = 0 ∨ d.wholeDigits < -330 then some ⟨0, leastExponent⟩
  else if 310 < d.wholeDigits then none
  else ofQuotient? (d.digits * tenPower d.exponent) (tenPower (-d.exponent))

/-- Compares a decimal number with `n` times two to the power of `exponent`. -/
def compareDecimal (d : Decimal) (n : Nat) (exponent : Int) : Ordering :=
  compare (d.digits * tenPower d.exponent * twoPower (-exponent))
    (n * twoPower exponent * tenPower (-d.exponent))

/-- The decimal number stands for the number: it is closer to it than to its neighbours, or as close
and the significand is even. The lower neighbour of a power of two is twice as close as the upper.
-/
def isNearest (x : Double) (d : Decimal) : Bool :=
  let isPower := x.significand = twoPower 52 ∧ leastExponent < x.exponent
  let low := 4 * x.significand - (if isPower then 1 else 2)
  let high := 4 * x.significand + 2
  let isEven := x.significand % 2 == 0
  let above := compareDecimal d low (x.exponent - 2)
  let below := compareDecimal d high (x.exponent - 2)
  (above == .gt || (isEven && above == .eq)) && (below == .lt || (isEven && below == .eq))

def scale (x : Double) : Int :=
  let guess := ((x.significand.log2 + x.exponent) * 30103) / 100000
  let isAbove (power : Int) : Bool := compareDecimal ⟨1, power⟩ x.significand x.exponent == .gt
  (([guess - 1, guess, guess + 1].find? isAbove).getD (guess + 2))

/-- Which of two decimal numbers is taken if both are as near. -/
inductive Tie where
  | greater
  | even
  deriving DecidableEq, Repr

/-- Of the two decimal numbers of a unit between which the number lies, the nearer one that stands
for it. -/
def atUnit? (x : Double) (tie : Tie) (unit : Int) : Option Decimal :=
  let num := x.significand * twoPower x.exponent * tenPower (-unit)
  let den := twoPower (-x.exponent) * tenPower unit
  let low : Decimal := ⟨num / den, unit⟩
  let high : Decimal := ⟨num / den + 1, unit⟩
  match x.isNearest low, x.isNearest high with
  | true, true =>
    let isTie := 2 * (num % den) = den
    if 2 * (num % den) < den ∨ (isTie ∧ tie = .even ∧ low.digits % 2 = 0) then some low
    else some high
  | true, false => some low
  | false, true => some high
  | false, false => none

/-- The decimal number with the fewest digits that stands for the number; seventeen are enough. -/
def shortest (x : Double) (tie : Tie) : Decimal :=
  if x.significand = 0 then ⟨0, 0⟩
  else
    let units := (List.range 17).map fun (n : Nat) => x.scale - 1 - n
    let d := (units.findSome? (x.atUnit? tie)).getD
      ⟨x.significand * twoPower x.exponent * Nat.pow 5 (-x.exponent).toNat, min 0 x.exponent⟩
    Decimal.strip d.digits d.exponent

end Double

end SeriesCatalog
