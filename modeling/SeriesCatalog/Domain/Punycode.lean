import SeriesCatalog.Text.Digits

/-! # Labels of domain names in ASCII

A label with characters beyond ASCII is written in ASCII as its ASCII characters and a row of
numbers, each of which says where to insert which character. The digits of a number are the letters
and the ten decimal digits; how far a number reaches depends on the numbers before it.
-/

namespace SeriesCatalog.Domain

open Text

/-- The value of a digit of base 36, in lower case. -/
def digit36? (c : Char) : Option Nat :=
  if 'a' ≤ c ∧ c ≤ 'z' then some (c.toNat - 97)
  else if isDigit c then some (digitValue c + 26)
  else none

/-- The least digit at a position that does not end its number. -/
def threshold (position bias : Nat) : Nat :=
  if position ≤ bias then 1 else min 26 (position - bias)

/-- The part of the bias that a number of a size calls for. -/
def biasOf (size position : Nat) : Nat :=
  if 455 < size then biasOf (size / 35) (position + 36)
  else position + 36 * size / (size + 38)
termination_by size

/-- The bias after a number, in a text that has `length` characters with the new one. -/
def nextBias (number length : Nat) (isFirst : Bool) : Nat :=
  let part := if isFirst then number / 700 else number / 2
  biasOf (part + part / length) 0

/-- A label that is being completed. -/
structure Insertion where
  text : List Char
  code : Nat
  /-- The place after the character that was inserted last. -/
  place : Nat
  bias : Nat
  deriving Repr, DecidableEq

namespace Insertion

def start (ascii : List Char) : Insertion := ⟨ascii, 0x80, 0, 72⟩

/-- Inserts the character that a number stands for. The number counts places from the last one on,
and the code point grows whenever the end of the text is passed. -/
def insert? (s : Insertion) (number : Nat) : Option Insertion :=
  let length := s.text.length + 1
  let code := s.code + (s.place + number) / length
  let place := (s.place + number) % length
  if code.isValidChar then
    some ⟨s.text.insertIdx place (Char.ofNat code), code, place + 1,
      nextBias number length (s.place = 0)⟩
  else none

/-- Inserts the characters that digits stand for. A number is read from its least digit; `weight`
is the weight of the next digit, at `position`, and `number` the value of the digits before it. -/
def run? (s : Insertion) (weight position number : Nat) : List Char → Option (List Char)
  | [] => if position = 36 then some s.text else none
  | c :: rest => do
    let digit ← digit36? c
    let number := number + digit * weight
    let limit := threshold position s.bias
    if digit < limit then (← s.insert? number).run? 1 36 0 rest
    else s.run? (weight * (36 - limit)) (position + 36) number rest

end Insertion

/-- The label that is written as an ASCII text: the characters before the last hyphen, if there is
one, and the digits after it. A hyphen has a character before it. -/
def decodeLabel? (text : List Char) : Option (List Char) :=
  let digits := (text.reverse.takeWhile (· != '-')).reverse
  if digits.length + 1 = text.length then none
  else (Insertion.start (text.take (text.length - digits.length - 1))).run? 1 36 0 digits

end SeriesCatalog.Domain
