import CommitGate.Text.Visible

/-!
# Quoted text

A text is quoted between double quotes. A quote or a backslash stands behind a backslash; tab, line
feed, carriage return and the zero character have a letter; any other character that is not visible
is written by its code, in lower-case hexadecimal digits between braces; all else is itself.
-/

namespace CommitGate.Text

/-- The hexadecimal digit for a number below 16, in lower case. -/
def hexDigit (n : Nat) : Char :=
  if n < 10 then Char.ofNat (0x30 + n) else Char.ofNat (0x57 + n)

/-- The lower-case hexadecimal numeral of a number, without leading zeros. -/
def hexNumeral (n : Nat) : List Char :=
  if n < 16 then [hexDigit n] else hexNumeral (n / 16) ++ [hexDigit (n % 16)]

/-- The letter that stands behind a backslash for a character that has one. -/
def escapeLetter? (c : Char) : Option Char :=
  if c = '\x22' then some '\x22'
  else if c = '\\' then some '\\'
  else if c = '\t' then some 't'
  else if c = '\n' then some 'n'
  else if c = '\r' then some 'r'
  else if c = '\x00' then some '0'
  else none

/-- One character as it stands between the quotes. -/
def quoteChar (c : Char) : List Char :=
  match escapeLetter? c with
  | some letter => ['\\', letter]
  | none =>
    if isVisible c then [c]
    else ['\\', 'u', '\x7b'] ++ hexNumeral c.toNat ++ ['\x7d']

/-- The characters between the quotes. -/
def quoteBody (s : List Char) : List Char := s.flatMap quoteChar

/-- The text between double quotes, with whatever has no plain form escaped. -/
def quote (s : String) : String := String.ofList ('\x22' :: quoteBody s.toList ++ ['\x22'])

end CommitGate.Text
