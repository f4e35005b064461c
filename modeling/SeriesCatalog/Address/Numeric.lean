import SeriesCatalog.Text.Blank
import SeriesCatalog.Text.Digits

/-! # Numeric addresses

An address of 32 bits is written as up to four numbers between full stops, each in decimal, octal or
hexadecimal digits; the last one stands for all the octets that are left. An address of 128 bits is
written as eight groups of hexadecimal digits between colons, where two colons stand for groups of
zeros, and where the last two groups may be written as an address of 32 bits in decimal digits.
-/

namespace SeriesCatalog.Address

open Text

/-- The number that a text stands for: hexadecimal after `0x`, octal after any other leading zero.
-/
def number? (text : List Char) : Option Nat :=
  let (base, digits) := match text with
    | '0' :: 'x' :: digits => (16, digits)
    | '0' :: c :: digits => (8, c :: digits)
    | _ => (10, text)
  if text.isEmpty then none
  else digits.foldlM (fun n c => do
    let digit ← hexValue? c
    if digit < base then some (base * n + digit) else none) 0

/-- The parts of a text between its full stops, without an empty last one. -/
def dottedParts (text : List Char) : List (List Char) :=
  let parts := splitAll '.' text
  if parts.getLast? = some [] then parts.dropLast else parts

/-- The text ends with a number, so that it can only be a numeric address. -/
def endsInNumber (text : List Char) : Bool :=
  match (dottedParts text).getLast? with
  | some part => (!part.isEmpty && part.all isDigit) || (number? part).isSome
  | none => false

/-- The address of 32 bits that a text stands for. -/
def ofDotted? (text : List Char) : Option Nat := do
  let numbers ← (dottedParts text).mapM number?
  let last ← numbers.getLast?
  let octets := numbers.dropLast
  if numbers.length ≤ 4 && octets.all (· < 256) && last < Nat.pow 256 (4 - octets.length) then
    some (octets.foldr (fun octet n => n / 256 + octet * Nat.pow 256 3) 0 + last)
  else none

/-- Four decimal numbers below 256 between full stops, without leading zeros. -/
def isFourOctets (text : List Char) : Bool :=
  let parts := splitAll '.' text
  parts.length == 4 && parts.all fun part =>
    !part.isEmpty && part.all isDigit && digitsValue part < 256 &&
      (part.length == 1 || part.head? != some '0')

/-- The text is the rest of an address of 128 bits after some groups; `gap` tells that two colons
were among them, which count as one group. -/
def isGroups (groups : Nat) (gap : Bool) (text : List Char) : Bool :=
  match text with
  | [] => gap || groups == 8
  | c :: rest =>
    if groups < 8 then
      if c = ':' then !gap && isGroups (groups + 1) true rest
      else
        let digits := (text.take 4).takeWhile fun c => (hexValue? c).isSome
        match text.drop digits.length with
        | [] => isGroups (groups + 1) gap []
        | ':' :: rest => !rest.isEmpty && isGroups (groups + 1) gap rest
        | '.' :: _ => groups ≤ 6 && isFourOctets text && (gap || groups == 6)
        | _ => false
    else false
termination_by 8 - groups

def isGrouped (text : List Char) : Bool :=
  match text with
  | ':' :: ':' :: rest => isGroups 1 true rest
  | ':' :: _ => false
  | _ => !text.isEmpty && isGroups 0 false text

end SeriesCatalog.Address
