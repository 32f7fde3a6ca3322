import CommitGate.Json.Printer
import CommitGate.Text.Utf8

/-!
# What can be wrong with a JSON text

The causes for which a text or a value is refused, the place inside the value that was being read,
and the place in the text. A reader reports how many bytes it had not consumed when it stopped; the
line and the column follow from that and from the whole text, in one function.
-/

namespace CommitGate.Json

/-- What stands where a value of some kind was wanted. -/
inductive Found where
  /-- The word `null`. -/
  | null
  | boolean (b : Bool)
  | number (n : Number)
  | string (s : String)
  | list
  | object
deriving DecidableEq, Repr

/-- The kinds of value that a decoder can want. -/
inductive Wanted where
  | record (name : String)
  | list
  | string
deriving DecidableEq, Repr

/-- How many elements a list should have had. -/
inductive WantedLength where
  /-- One for each of the `fields` fields of a record. -/
  | exactly (record : String) (fields : Nat)
  | fewer
deriving DecidableEq, Repr

/-- Why a JSON text or value is refused. -/
inductive Cause where
  /-- The text ends where a value should be. -/
  | endInValue
  /-- The text ends inside a list. -/
  | endInList
  /-- The text ends inside an object. -/
  | endInObject
  /-- The text ends inside a string. -/
  | endInString
  /-- A key without a colon behind it. -/
  | expectedColon
  /-- An element without a comma or a bracket behind it. -/
  | expectedCommaOrBracket
  /-- A member without a comma or a brace behind it. -/
  | expectedCommaOrBrace
  /-- A misspelt `null`, `true` or `false`. -/
  | expectedWord
  /-- A byte that starts no value. -/
  | expectedValue
  /-- A backslash with something behind it that is no escape. -/
  | invalidEscape
  | invalidNumber
  /-- A number beyond double precision. -/
  | numberOutOfRange
  | invalidText
  /-- A control character inside a string. -/
  | controlCharacter
  /-- A member whose key is not a string. -/
  | keyNotString
  | loneSurrogate
  /-- The first half of a surrogate pair without an escape behind it. -/
  | unfinishedPair
  /-- A comma before a closing bracket. -/
  | trailingComma
  | trailingCharacters
  /-- Too many brackets inside each other. -/
  | tooDeep
  | wrongKind (found : Found) (wanted : Wanted)
  | wrongLength (length : Nat) (wanted : WantedLength)
  /-- A field that a record needs and an object does not have. -/
  | missingField (name : String)
  /-- A field that an object has twice. -/
  | repeatedField (name : String)
deriving DecidableEq, Repr

/-- The three sorts of cause. -/
inductive Category where
  | incomplete
  /-- The text is no JSON. -/
  | malformed
  /-- The text is JSON and does not fit. -/
  | unfitting
deriving DecidableEq, Repr

/-- The sort of a cause. -/
def Cause.category : Cause → Category
  | endInValue | endInList | endInObject | endInString => .incomplete
  | wrongKind .. | wrongLength .. | missingField _ | repeatedField _ => .unfitting
  | _ => .malformed

/-- What was found, in words. -/
def Found.describe : Found → String
  | null => "null"
  | boolean true => "boolean `true`"
  | boolean false => "boolean `false`"
  | number (.real x) => "floating point `" ++ x.toText ++ "`"
  | number n => "integer `" ++ n.toText ++ "`"
  | string s => "string " ++ Text.quote s
  | list => "sequence"
  | object => "map"

/-- What was wanted, in words. -/
def Wanted.describe : Wanted → String
  | record name => "struct " ++ name
  | list => "a sequence"
  | string => "a string"

/-- The length that was wanted, in words. -/
def WantedLength.describe : WantedLength → String
  | exactly record fields => "struct " ++ record ++ " with " ++ toString fields ++ " elements"
  | fewer => "fewer elements in array"

/-- A cause in words. -/
def Cause.describe : Cause → String
  | endInValue => "EOF while parsing a value"
  | endInList => "EOF while parsing a list"
  | endInObject => "EOF while parsing an object"
  | endInString => "EOF while parsing a string"
  | expectedColon => "expected `:`"
  | expectedCommaOrBracket => "expected `,` or `]`"
  | expectedCommaOrBrace => "expected `,` or `\x7d`"
  | expectedWord => "expected ident"
  | expectedValue => "expected value"
  | invalidEscape => "invalid escape"
  | invalidNumber => "invalid number"
  | numberOutOfRange => "number out of range"
  | invalidText => "invalid unicode code point"
  | controlCharacter => "control character (\\u0000-\\u001F) found while parsing a string"
  | keyNotString => "key must be a string"
  | loneSurrogate => "lone leading surrogate in hex escape"
  | unfinishedPair => "unexpected end of hex escape"
  | trailingComma => "trailing comma"
  | trailingCharacters => "trailing characters"
  | tooDeep => "recursion limit exceeded"
  | wrongKind found wanted => "invalid type: " ++ found.describe ++ ", expected " ++ wanted.describe
  | wrongLength n wanted => "invalid length " ++ toString n ++ ", expected " ++ wanted.describe
  | missingField name => "missing field `" ++ name ++ "`"
  | repeatedField name => "duplicate field `" ++ name ++ "`"

/-- One step from a value to a part of it. -/
inductive Step where
  /-- To the member with this key. -/
  | field (key : String)
  /-- To the element with this number. -/
  | index (i : Nat)
  /-- To a member whose key was not read. -/
  | unknown
deriving DecidableEq, Repr

/-- The text of a step, without what separates it from the step before. -/
def Step.toText : Step → String
  | field key => key
  | index i => "[" ++ toString i ++ "]"
  | unknown => "?"

/-- The text of the steps behind a first one. Steps to members are separated by points. -/
def stepsText : List Step → String
  | [] => ""
  | .index i :: rest => (Step.index i).toText ++ stepsText rest
  | step :: rest => "." ++ step.toText ++ stepsText rest

/-- The text of a path from a whole value to a part of it; a point for the whole value. -/
def pathText : List Step → String
  | [] => "."
  | step :: rest => step.toText ++ stepsText rest

/-- Why and where a reader stopped. -/
structure Fault where
  cause : Cause
  /-- The part of the value that was being read. -/
  path : List Step := []
  /-- The number of bytes from the place that the fault is reported at to the end of the text. -/
  left : Nat
deriving DecidableEq, Repr

namespace Fault

/-- A fault reported in front of `rest`, the bytes that are not consumed. -/
def before (cause : Cause) (rest : Bytes) : Fault := { cause, left := rest.length }

/-- A fault reported behind the first byte of `rest`, which is looked at and not consumed; at the
end of the text if there is no such byte. -/
def upon (cause : Cause) (rest : Bytes) : Fault := { cause, left := rest.length - 1 }

/-- The same fault, seen from a value that has the faulty one as a part. -/
def within (step : Step) (f : Fault) : Fault := { f with path := step :: f.path }

/-- The same fault for another cause. -/
def because (cause : Cause) (f : Fault) : Fault := { f with cause }

end Fault

/-- The line and the column behind a run of bytes. Lines count from one, columns from zero, in
bytes. -/
def position (consumed : Bytes) : Nat × Nat :=
  (1 + consumed.count 0x0A, (consumed.reverse.takeWhile (· != 0x0A)).length)

/-- A fault with its place in a whole text. -/
structure Refusal where
  cause : Cause
  /-- The part of the value that was being read. -/
  path : List Step
  /-- The line, from one. -/
  line : Nat
  /-- The column, from zero. -/
  column : Nat
deriving DecidableEq, Repr

/-- The place of a fault in the text that was read. -/
def Fault.locate (text : Bytes) (f : Fault) : Refusal :=
  let place := position (text.take (text.length - f.left))
  { cause := f.cause, path := f.path, line := place.1, column := place.2 }

/-- A refusal in words. -/
def Refusal.message (r : Refusal) : String :=
  r.cause.describe ++ " at line " ++ toString r.line ++ " column " ++ toString r.column

end CommitGate.Json
