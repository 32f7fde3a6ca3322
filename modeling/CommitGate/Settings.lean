import CommitGate.Text.Quoted
import CommitGate.Text.Blank

/-!
# Settings

What is checked and how the server is reached, as read once from named variables. A variable whose
value is empty counts as unset. Reading asks for the variables in a fixed order and stops at the
first one that will not do; it keeps a list of what it asked for.
-/

namespace CommitGate

/-- A variable that settings are read from. -/
inductive Variable where
  /-- The repository, as owner and name. -/
  | repository
  | commit
  | credential
  /-- The status context that has to succeed. -/
  | requiredContext
  /-- The address that routes are joined to. -/
  | baseAddress
  /-- The number of seconds to wait for the server. -/
  | timeout
deriving DecidableEq, Repr

namespace Variable

/-- The name of a variable. -/
def name : Variable → String
  | repository => "REPO"
  | commit => "PR_HEAD_SHA"
  | credential => "GH_TOKEN"
  | requiredContext => "REQUIRED_CONTEXT"
  | baseAddress => "GITHUB_API_URL"
  | timeout => "REQUEST_TIMEOUT_SECS"

/-- All variables, in the order in which they are asked for. -/
def all : List Variable :=
  [repository, commit, credential, requiredContext, baseAddress, timeout]

end Variable

/-- Why settings cannot be read. -/
inductive SettingsError where
  /-- A variable that is needed is unset. -/
  | unset (v : Variable)
  /-- A variable has a value that will not do. -/
  | invalid (v : Variable) (value : String)
deriving DecidableEq, Repr

namespace SettingsError

/-- The error in words. -/
def message : SettingsError → String
  | unset v => "required environment variable " ++ v.name ++ " is not set"
  | invalid v value =>
    "environment variable " ++ v.name ++ " has invalid value " ++ Text.quote value

/-- The error as log records show it. -/
def describe : SettingsError → String
  | unset v => "MissingVar(" ++ Text.quote v.name ++ ")"
  | invalid v value =>
    "InvalidVar \x7b name: " ++ Text.quote v.name ++ ", value: " ++ Text.quote value ++ " \x7d"

end SettingsError

/-! ### Asking for variables -/

/-- The values of variables; unset ones have none. -/
abbrev Lookup := Variable → Option String

/-- What asking gives: the variables that were asked for, in order, and the answer. -/
structure Asked (α : Type) where
  /-- The variables that were asked for. -/
  names : List Variable
  answer : Except SettingsError α

namespace Asked

variable {α β : Type}

/-- Asks on, unless the first answer is an error. -/
def andThen (a : Asked α) (next : α → Asked β) : Asked β :=
  match a.answer with
  | .error e => ⟨a.names, .error e⟩
  | .ok x =>
    let b := next x
    ⟨a.names ++ b.names, b.answer⟩

instance : Monad Asked where
  pure x := ⟨[], .ok x⟩
  bind := andThen

/-- The value of a variable, if it is set and not empty. -/
def optional (lookup : Lookup) (v : Variable) : Asked (Option String) :=
  ⟨[v], .ok ((lookup v).filter fun value => value != "")⟩

/-- The value of a variable that is needed. -/
def required (lookup : Lookup) (v : Variable) : Asked String := do
  match ← optional lookup v with
  | some value => return value
  | none => ⟨[], .error (.unset v)⟩

end Asked

/-! ### What is checked -/

/-- A text that is never shown. -/
structure Secret where
  expose : String
deriving DecidableEq

/-- What stands for any secret text where it would be shown. -/
def Secret.describe (_ : Secret) : String := "Secret([REDACTED alloc::string::String])"

/-- One required status context on one commit. -/
structure CheckRequest where
  /-- The repository, as owner and name. -/
  repository : String
  commit : String
  /-- The credential that requests carry. -/
  credential : Secret
  /-- The status context that has to succeed. -/
  requiredContext : String
deriving DecidableEq

namespace CheckRequest

/-- The request as log records show it. -/
def describe (r : CheckRequest) : String :=
  "CheckRequest \x7b repository: " ++ Text.quote r.repository ++
    ", commit_sha: " ++ Text.quote r.commit ++
    ", credential: " ++ r.credential.describe ++
    ", required_context: " ++ Text.quote r.requiredContext ++ " \x7d"

/-- The request that the variables name. -/
def ask (lookup : Lookup) : Asked CheckRequest := do
  let repository ← Asked.required lookup .repository
  let commit ← Asked.required lookup .commit
  let credential ← Asked.required lookup .credential
  let requiredContext ← Asked.required lookup .requiredContext
  return { repository, commit, credential := ⟨credential⟩, requiredContext }

end CheckRequest

/-! ### How the server is reached -/

/-- The number of seconds that a text names, if it names one from `1` to `2 ^ 64 - 1`: after blanks
at both ends are taken off, decimal digits, perhaps with a plus sign in front. -/
def secondsOfText? (raw : String) : Option Nat :=
  let trimmed := Text.trim raw.toList
  let digits := if trimmed.head? = some '+' then trimmed.tail else trimmed
  if digits.isEmpty || !digits.all Char.isDigit then none
  else
    let n := digits.foldl (fun n c => n * 10 + (c.toNat - 0x30)) 0
    if 0 < n ∧ n < Nat.pow 2 64 then some n else none

/-- The optional settings of a connection. -/
structure ConnectionOptions where
  /-- The address that routes are joined to. -/
  baseAddress : Option String := none
  /-- The number of seconds to wait for the server. -/
  timeout : Option Nat := none
deriving DecidableEq, Repr

namespace ConnectionOptions

/-- The options as log records show them. -/
def describe (o : ConnectionOptions) : String :=
  let shown (s : Option String) : String :=
    match s with
    | none => "None"
    | some text => "Some(" ++ text ++ ")"
  "ClientOptions \x7b base_uri: " ++ shown (o.baseAddress.map Text.quote) ++
    ", timeout: " ++ shown (o.timeout.map fun n => toString n ++ "s") ++ " \x7d"

/-- The options that the variables name. -/
def ask (lookup : Lookup) : Asked ConnectionOptions := do
  let baseAddress ← Asked.optional lookup .baseAddress
  match ← Asked.optional lookup .timeout with
  | none => return { baseAddress, timeout := none }
  | some raw =>
    match secondsOfText? raw with
    | some seconds => return { baseAddress, timeout := some seconds }
    | none => ⟨[], .error (.invalid .timeout raw)⟩

end ConnectionOptions

end CommitGate
