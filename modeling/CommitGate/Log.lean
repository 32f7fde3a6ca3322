import CommitGate.Pattern.Limits

/-!
# Log records

Records have a level and a target. Which of them are shown is said by a text of directives,
separated by commas: a level for all targets, or a target whose records of all levels or up to some
level are shown. A target stands for all that begin with it, and the longest that fits decides.
Behind a slash the text may have a pattern, which has to occur in what a record says.
-/

namespace CommitGate.Log

/-- How grave a record is. -/
inductive Level where
  | error
  | warn
  /-- What is of general interest. -/
  | info
  /-- What helps to find mistakes. -/
  | debug
  | trace
deriving DecidableEq, Repr

namespace Level

/-- The levels, from the gravest on. -/
def all : List Level := [error, warn, info, debug, trace]

/-- The place of a level among all. -/
def rank : Level → Nat
  | error => 1
  | warn => 2
  | info => 3
  | debug => 4
  | trace => 5

/-- The name of a level. -/
def name : Level → String
  | error => "ERROR"
  | warn => "WARN"
  | info => "INFO"
  | debug => "DEBUG"
  | trace => "TRACE"

end Level

/-- A record. -/
structure Record where
  level : Level
  target : String
  text : String
deriving DecidableEq, Repr

/-- The line of a record. -/
def Record.line (r : Record) : String := r.level.name ++ " " ++ r.target ++ ": " ++ r.text

/-! ### Directives -/

/-- Which records of some targets are shown. -/
structure Directive where
  /-- What the targets begin with, or `none` for a directive about all of them. -/
  target : Option (List Char)
  /-- The least grave level that is shown, or `none` if none is. -/
  threshold : Option Level
deriving DecidableEq, Repr

namespace Directive

/-- Whether the directive is about a target. -/
def covers (d : Directive) (target : String) : Bool :=
  match d.target with
  | none => true
  | some start => start.isPrefixOf target.toList

/-- The length of what the targets begin with. -/
def length (d : Directive) : Nat := (d.target.map List.length).getD 0

/-- Whether the directive shows records of a level. -/
def shows (d : Directive) (level : Level) : Bool :=
  match d.threshold with
  | none => false
  | some threshold => level.rank ≤ threshold.rank

end Directive

/-- What is wrong with a text of directives. -/
inductive FilterProblem where
  /-- A part of it is no directive. -/
  | malformed (part : List Char)
  | manySlashes (text : List Char)
  /-- The pattern behind its slash is refused. -/
  | badPattern (refusal : Pattern.Refusal)
deriving DecidableEq, Repr

/-- The problem in words. -/
def FilterProblem.message : FilterProblem → String
  | malformed part => "warning: invalid logging spec '" ++ String.ofList part ++ "', ignoring it"
  | manySlashes text =>
    "warning: invalid logging spec '" ++ String.ofList text ++ "' (too many '/'s), ignoring it"
  | badPattern refusal => "warning: invalid regex filter - " ++ refusal.message ++ ", ignoring it"

/-- The threshold that a word names, in any case. -/
def thresholdOfText? (s : List Char) : Option (Option Level) :=
  let word := String.ofList (s.map Char.toUpper)
  if word == "OFF" then some none else (Level.all.find? fun l => l.name == word).map some

/-- The directive that a part names. Blank characters belong to the target and not to the level. -/
def Directive.ofText (part : List Char) : Except FilterProblem Directive :=
  match part.splitOnP (· == '=') with
  | [name] =>
    match thresholdOfText? name with
    | some threshold => .ok { target := none, threshold }
    | none => .ok { target := some name, threshold := some .trace }
  | [name, level] =>
    let level := Text.trim level
    if level.isEmpty then .ok { target := some name, threshold := some .trace }
    else
      match thresholdOfText? level with
      | some threshold => .ok { target := some name, threshold }
      | none => .error (.malformed level)
  | _ => .error (.malformed part)

/-! ### Filters -/

/-- Which records are shown. -/
structure Filter where
  /-- The directives, no two of them about one target. -/
  directives : List Directive := []
  /-- What has to occur in a record, if there is anything. -/
  pattern : Option Pattern := none
deriving Repr

namespace Filter

/-- The filter with one more directive, which takes the place of one about the same target. -/
def add (f : Filter) (d : Directive) : Filter :=
  if f.directives.any fun e => e.target == d.target then
    { f with directives := f.directives.map fun e => if e.target == d.target then d else e }
  else { f with directives := f.directives ++ [d] }

/-- The filter with the directives that a text names, and what is wrong with the text. -/
def addAll (f : Filter) (s : List Char) : Filter × List FilterProblem :=
  let parts := ((s.splitOnP (· == ',')).map Text.trim).filter fun p => !p.isEmpty
  (parts.map Directive.ofText).foldl
    (fun (f, problems) part =>
      match part with
      | .ok d => (f.add d, problems)
      | .error problem => (f, problems ++ [problem]))
    (f, [])

/-- The filter that a text names, and what is wrong with the text. A pattern that is refused is left
out. -/
def ofText (s : List Char) : Filter × List FilterProblem :=
  match s.splitOnP (· == '/') with
  | [directives] => addAll {} directives
  | [directives, pattern] =>
    let (f, problems) := addAll {} directives
    match Pattern.ofText pattern with
    | .ok pattern => ({ f with pattern := some pattern }, problems)
    | .error refusal => (f, problems ++ [.badPattern refusal])
  | _ => ({}, [.manySlashes s])

/-- The directive that decides about a target: of those with the longest beginning, the last. Where
there is no directive at all, errors are shown. -/
def decisive? (f : Filter) (target : String) : Option Directive :=
  let directives :=
    if f.directives.isEmpty then [{ target := none, threshold := some .error }] else f.directives
  (directives.filter fun d => d.covers target).foldl
    (fun best d =>
      match best with
      | none => some d
      | some b => if b.length ≤ d.length then some d else some b)
    none

/-- Whether a record is shown. -/
def shows (f : Filter) (r : Record) : Bool :=
  ((f.decisive? r.target).map fun d => d.shows r.level).getD false &&
    f.pattern.all fun p => p.occursIn r.text.toList

end Filter

end CommitGate.Log
