import SeriesCatalog.Yaml.Node
import SeriesCatalog.Mismatch
import SeriesCatalog.Number.Double

/-! # Values of plain scalars

A plain scalar is null, a truth value, a number or else a text, by the way it is spelled. This
matters where the scalar is not wanted as a text.
-/

namespace SeriesCatalog.Yaml

def isNull (text : String) : Bool :=
  ["null", "Null", "NULL", "~"].contains text

def boolean? (text : String) : Option Bool :=
  if ["true", "True", "TRUE"].contains text then some true
  else if ["false", "False", "FALSE"].contains text then some false
  else none

/-- Reads a natural number to a base; letters stand for digits above nine. -/
def natural? (base : Nat) (digits : List Char) : Option Nat :=
  if digits.isEmpty then none
  else digits.foldlM (fun n c =>
    match Text.hexValue? c with
    | some d => if d < base then some (base * n + d) else none
    | none => none) 0

/-- A number with leading zeros, which is a text. -/
def isPaddedNumber (text : List Char) : Bool :=
  let digits := match text with
    | c :: rest => if c = '-' ∨ c = '+' then rest else text
    | [] => []
  1 < digits.length && digits.head? == some '0' && digits.all Text.isDigit

/-- Reads a number with an optional mark of its base. -/
def based? (text : List Char) : Option Nat :=
  match text with
  | '0' :: 'x' :: digits => natural? 16 digits
  | '0' :: 'o' :: digits => natural? 8 digits
  | '0' :: 'b' :: digits => natural? 2 digits
  | digits => natural? 10 digits

def integer? (text : List Char) : Option Int :=
  if isPaddedNumber text then none
  else
    match text with
    | '-' :: digits => (based? digits).map fun n => -(n : Int)
    | '+' :: digits => (based? digits).map fun n => (n : Int)
    | digits => (based? digits).map fun n => (n : Int)

/-- An integer as it is shown, with the name of its width if it needs more than 64 bits. -/
def foundInteger? (n : Int) : Option Found :=
  if -Int.pow 2 63 ≤ n ∧ n < Int.pow 2 64 then some (.integer n)
  else if 0 ≤ n ∧ n < Int.pow 2 128 then some (.wideInteger n "u128")
  else if -Int.pow 2 127 ≤ n ∧ n < 0 then some (.wideInteger n "i128")
  else none

/-- Reads an exponent with an optional sign up to the end of the text. -/
def exponent? (text : List Char) : Option Int :=
  match text with
  | '-' :: digits => (natural? 10 digits).map fun n => -(n : Int)
  | '+' :: digits => (natural? 10 digits).map fun n => (n : Int)
  | digits => (natural? 10 digits).map fun n => (n : Int)

/-- Reads a decimal number without a sign: digits, with a point before, among or after them, and an
exponent. -/
def decimal? (text : List Char) : Option Decimal := do
  let (whole, rest) := Text.spanDigits text
  let (fraction, rest) := match rest with
    | '.' :: rest => Text.spanDigits rest
    | rest => ([], rest)
  if whole.isEmpty && fraction.isEmpty then none
  let exponent ← match rest with
    | [] => some 0
    | e :: rest => if e = 'e' ∨ e = 'E' then exponent? rest else none
  some ⟨Text.digitsValue (whole ++ fraction), exponent - fraction.length⟩

/-- The text of a decimal number after it was rounded to double precision. A number that is too
great has none. -/
def doubleText? (d : Decimal) : Option String :=
  (Double.ofDecimal? d).map fun x => (x.shortest .greater).positional

/-- The text of a number that is no integer, as messages show it. -/
def floatText? (text : List Char) : Option String :=
  let unsigned := match text with
    | '+' :: rest => rest
    | rest => rest
  if [".inf", ".Inf", ".INF"].contains (String.ofList unsigned) then some "inf"
  else if ["-.inf", "-.Inf", "-.INF"].contains (String.ofList text) then some "-inf"
  else if [".nan", ".NaN", ".NAN"].contains (String.ofList text) then some "NaN"
  else
    match text with
    | '-' :: rest => ((decimal? rest).bind doubleText?).map ("-" ++ ·)
    | _ => (decimal? unsigned).bind doubleText?

def plainFound (text : String) : Found :=
  let chars := text.toList
  if text.isEmpty || isNull text then .unit
  else
    match boolean? text with
    | some value => .boolean value
    | none =>
      match (integer? chars).bind foundInteger? with
      | some found => found
      | none =>
        if isPaddedNumber chars then .string text
        else
          match floatText? chars with
          | some float => .float float
          | none => .string text

/-- What is wrong with a node where something else is expected. The tag of a scalar can ask for a
type that its text does not have. -/
def Node.mismatch (expected : String) : Node → Mismatch
  | .sequence .. => .type .sequence expected
  | .mapping .. => .type .map expected
  | .alias _ => .type .unit expected
  | .scalar tag style text =>
    let chars := text.toList
    match tag with
    | none => .type (if style = .plain then plainFound text else .string text) expected
    | some tag =>
      if tag = Tag.common "bool" then
        match boolean? text with
        | some value => .type (.boolean value) expected
        | none => .value (.string text) "a boolean"
      else if tag = Tag.common "int" then
        match (integer? chars).bind foundInteger? with
        | some found => .type found expected
        | none => .value (.string text) "an integer"
      else if tag = Tag.common "float" then
        match floatText? chars with
        | some float => .type (.float float) expected
        | none => .value (.string text) "a float"
      else if tag = Tag.common "null" then
        if isNull text then .type .unit expected else .value (.string text) "null"
      else if tag.isLocal && style = .plain then .type (plainFound text) expected
      else .type (.string text) expected

end SeriesCatalog.Yaml
