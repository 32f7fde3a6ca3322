import CommitGate.Json.Value
import CommitGate.Text.Quoted

/-!
# Compact JSON text

A value as JSON text without blanks. In a string a quote and a backslash stand behind a backslash,
the control characters below the space are escaped, by a letter where JSON has one and by their code
otherwise, and every other character is itself.
-/

namespace CommitGate.Json

open Text (hexDigit)

/-- One character inside a JSON string. -/
def stringChar (c : Char) : List Char :=
  if c = '\x22' then ['\\', '\x22']
  else if c = '\\' then ['\\', '\\']
  else if c = '\x08' then ['\\', 'b']
  else if c = '\x0c' then ['\\', 'f']
  else if c = '\n' then ['\\', 'n']
  else if c = '\r' then ['\\', 'r']
  else if c = '\t' then ['\\', 't']
  else if c.toNat < 0x20 then
    ['\\', 'u', '0', '0', hexDigit (c.toNat / 16), hexDigit (c.toNat % 16)]
  else [c]

/-- A text as a JSON string. -/
def stringText (s : String) : String :=
  String.ofList ('\x22' :: s.toList.flatMap stringChar ++ ['\x22'])

/-- A number as JSON text. -/
def Number.toText : Number → String
  | natural n => toString n
  | negative n => "-" ++ toString n
  | real x => x.toText

mutual

/-- A value as JSON text. -/
def Value.toText : Value → String
  | .null => "null"
  | .boolean true => "true"
  | .boolean false => "false"
  | .number n => n.toText
  | .string s => stringText s
  | .list items => "[" ++ ",".intercalate (Value.itemTexts items) ++ "]"
  | .object members => "\x7b" ++ ",".intercalate (Value.memberTexts members) ++ "\x7d"

/-- The texts of the elements of a list. -/
def Value.itemTexts : List Value → List String
  | [] => []
  | v :: rest => v.toText :: Value.itemTexts rest

/-- The texts of the members of an object. -/
def Value.memberTexts : List (String × Value) → List String
  | [] => []
  | (k, v) :: rest => (stringText k ++ ":" ++ v.toText) :: Value.memberTexts rest

end

end CommitGate.Json
