import SeriesCatalog.Text.Digits
import SeriesCatalog.Text.Printable

/-! # Texts in double quotes

Diagnostics show a text between double quotes, with a backslash before quotes and backslashes, the
short names of the common control characters, and the code point of every other character that
would not show by itself.
-/

namespace SeriesCatalog.Text

/-- The digit of a number below sixteen, in lower case. -/
def hexDigit (n : Nat) : Char :=
  if n % 16 < 10 then digit (n % 16) else Char.ofNat (87 + n % 16)

/-- The hexadecimal numeral of a number, without leading zeros. -/
def hexNumeral (n : Nat) : List Char :=
  if n < 16 then [hexDigit n] else hexNumeral (n / 16) ++ [hexDigit n]

/-- One character as it stands between double quotes. -/
def escapeChar (c : Char) : List Char :=
  if c = '\x00' then ['\\', '0']
  else if c = '\t' then ['\\', 't']
  else if c = '\r' then ['\\', 'r']
  else if c = '\n' then ['\\', 'n']
  else if c = '"' ∨ c = '\\' then ['\\', c]
  else if isPlain c then [c]
  else '\\' :: 'u' :: '\x7b' :: hexNumeral c.toNat ++ ['\x7d']

def quoted (text : String) : String :=
  String.ofList ('"' :: text.toList.flatMap escapeChar ++ ['"'])

end SeriesCatalog.Text
