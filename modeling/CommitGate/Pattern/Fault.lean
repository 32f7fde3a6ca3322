import CommitGate.Pattern.Mark

/-!
# What is wrong with a pattern

A fault has a place, and some faults point to a second place as well. The account of a fault shows
the pattern with carets under both. A pattern of several lines is shown between two rules with its
lines numbered, and spans over more than one line are told in words.
-/

namespace CommitGate.Pattern

/-- The kinds of faults. -/
inductive Flaw where
  /-- An escape that stands for no character, in a bracketed set. -/
  | escapeInSet
  /-- A range whose first character comes behind its last. -/
  | rangeOrder
  /-- A range that starts or stops at something else than a character. -/
  | rangeEnd
  /-- A bracketed set without an end. -/
  | setUnclosed
  | countTooLarge
  | codeEmpty
  /-- A code of no character. -/
  | codeInvalid
  /-- A character in a code that is no digit. -/
  | codeDigit
  | escapeUnfinished
  /-- An escape with an unknown letter. -/
  | escapeUnknown
  /-- A minus sign before no flag. -/
  | flagDangling
  | flagDuplicate
  | flagNegatedTwice
  | flagUnfinished
  | flagUnknown
  | nameDuplicate
  | nameEmpty
  /-- A character that no name of a group has. -/
  | nameCharacter
  | nameUnfinished
  | groupUnclosed
  | groupUnopened
  | nesting
  /-- Bounds of a repetition in the wrong order. -/
  | countOrder
  /-- A repetition without a number. -/
  | countEmpty
  /-- Bounds of a repetition without an end. -/
  | countUnclosed
  | repetitionOfNothing
  /-- The name of an edge of words without an end. -/
  | edgeUnclosed
  /-- An unknown name of an edge of words. -/
  | edgeUnknown
  /-- An opening brace behind an edge of words at the end of the pattern. -/
  | edgeUnfinished
  /-- A backslash in the place of a property's letter. -/
  | propertyInvalid
  /-- A reference to what a group matched. -/
  | backreference
  /-- A look ahead or behind. -/
  | lookAround
  /-- What needs more than single bytes where characters are bytes. -/
  | notBytes
  /-- What matches less than a character. -/
  | notText
  /-- A property of characters of which nothing is known. -/
  | propertyUnknown
  /-- A class of characters of which nothing is known beyond ASCII. -/
  | shorthandUnknown
  /-- Cases of characters, of which nothing is known beyond ASCII. -/
  | casesUnknown
deriving DecidableEq, Repr

/-- The deepest nesting of parts. -/
def maxDepth : Nat := 250

/-- The fault in words. -/
def Flaw.message : Flaw → String
  | escapeInSet => "invalid escape sequence found in character class"
  | rangeOrder => "invalid character class range, the start must be <= the end"
  | rangeEnd => "invalid range boundary, must be a literal"
  | setUnclosed => "unclosed character class"
  | countTooLarge => "decimal literal invalid"
  | codeEmpty => "hexadecimal literal empty"
  | codeInvalid => "hexadecimal literal is not a Unicode scalar value"
  | codeDigit => "invalid hexadecimal digit"
  | escapeUnfinished => "incomplete escape sequence, reached end of pattern prematurely"
  | escapeUnknown => "unrecognized escape sequence"
  | flagDangling => "dangling flag negation operator"
  | flagDuplicate => "duplicate flag"
  | flagNegatedTwice => "flag negation operator repeated"
  | flagUnfinished => "expected flag but got end of regex"
  | flagUnknown => "unrecognized flag"
  | nameDuplicate => "duplicate capture group name"
  | nameEmpty => "empty capture group name"
  | nameCharacter => "invalid capture group character"
  | nameUnfinished => "unclosed capture group name"
  | groupUnclosed => "unclosed group"
  | groupUnopened => "unopened group"
  | nesting =>
    "exceed the maximum number of nested parentheses/brackets (" ++ toString maxDepth ++ ")"
  | countOrder => "invalid repetition count range, the start must be <= the end"
  | countEmpty => "repetition quantifier expects a valid decimal"
  | countUnclosed => "unclosed counted repetition"
  | repetitionOfNothing => "repetition operator missing expression"
  | edgeUnclosed =>
    "special word boundary assertion is either unclosed or contains an invalid character"
  | edgeUnknown =>
    "unrecognized special word boundary assertion, " ++
      "valid choices are: start, end, start-half or end-half"
  | edgeUnfinished =>
    "found either the beginning of a special word boundary or a bounded repetition on a \\b " ++
      "with an opening brace, but no closing brace"
  | propertyInvalid => "invalid Unicode character class"
  | backreference => "backreferences are not supported"
  | lookAround => "look-around, including look-ahead and look-behind, is not supported"
  | notBytes => "Unicode not allowed here"
  | notText => "pattern can match invalid UTF-8"
  | propertyUnknown => "Unicode property not found"
  | shorthandUnknown =>
    "Unicode-aware Perl class not found (make sure the unicode-perl feature is enabled)"
  | casesUnknown =>
    "Unicode-aware case insensitivity matching is not available " ++
      "(make sure the unicode-case feature is enabled)"

/-- A fault. -/
structure Fault where
  flaw : Flaw
  span : Span
  /-- What it clashes with, if there is something of the kind. -/
  other : Option Span := none
deriving DecidableEq, Repr

/-! ### The account of a fault -/

/-- The lines of a text. A return before a line feed belongs to the end of the line. -/
def lines (s : List Char) : List (List Char) :=
  let pieces := s.splitOnP (· == '\n')
  let ended := pieces.dropLast.map fun line =>
    if line.getLast? == some '\r' then line.dropLast else line
  match pieces.getLast? with
  | some [] | none => ended
  | some last => ended ++ [last]

/-- Carets under spans of one line, in order, from a column on. -/
def carets (column : Nat) : List Span → String
  | [] => ""
  | s :: spans =>
    let gap := s.start.column - column
    let width := max 1 (s.stop.column - s.start.column)
    String.ofList (List.replicate gap ' ') ++ String.ofList (List.replicate width '^') ++
      carets (column + gap + width) spans

namespace Fault

/-- The places that the fault points to, in order. -/
def spans (f : Fault) : List Span :=
  match f.other with
  | none => [f.span]
  | some other => if other.before f.span then [other, f.span] else [f.span, other]

/-- The pattern with carets under the places that the fault points to. -/
def notes (f : Fault) (pattern : List Char) : String :=
  let count := (lines pattern).length + if pattern.getLast? == some '\n' then 1 else 0
  let width := if count ≤ 1 then 0 else (toString count).length
  let blanks (n : Nat) : String := String.ofList (List.replicate n ' ')
  let label (line : Nat) : String :=
    if width == 0 then blanks 4
    else blanks (width - (toString line).length) ++ toString line ++ ": "
  String.join <| (lines pattern).zipIdx.map fun (text, i) =>
    let here := f.spans.filter fun s => s.isOneLine && s.start.line == i + 1
    let under :=
      if here.isEmpty then ""
      else blanks (if width == 0 then 4 else width + 2) ++ carets 1 here ++ "\n"
    label (i + 1) ++ String.ofList text ++ "\n" ++ under

/-- The words about a span over several lines. -/
def spanText (s : Span) : String :=
  "on line " ++ toString s.start.line ++ " (column " ++ toString s.start.column ++
    ") through line " ++ toString s.stop.line ++ " (column " ++ toString (s.stop.column - 1) ++ ")"

/-- The account of the fault. -/
def describe (f : Fault) (pattern : List Char) : String :=
  let notes := f.notes pattern
  let body :=
    if pattern.contains '\n' then
      let rule := String.ofList (List.replicate 79 '~') ++ "\n"
      let long := f.spans.filter fun s => !s.isOneLine
      let words :=
        if long.isEmpty then "" else String.intercalate "\n" (long.map spanText) ++ "\n"
      rule ++ notes ++ rule ++ words
    else notes
  "regex parse error:\n" ++ body ++ "error: " ++ f.flaw.message

end Fault

end CommitGate.Pattern
