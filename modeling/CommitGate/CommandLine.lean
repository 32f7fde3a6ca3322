import CommitGate.Call

/-!
# The command line

One run of the program: it reads what to check from the environment, sets up a client, asks the
server and reports the decision in one line and in the exit code. A passing commit is reported on
standard output, anything else on standard error. What is wrong with the settings comes before
anything is sent. What is wrong with the filter of log records is told on standard error and stops
nothing.
-/

namespace CommitGate

/-- The environment of a run: the variables that are set, as bytes. -/
abbrev Environment := String → Option Bytes

namespace Environment

/-- The text of a variable. One that is not text counts as unset. -/
def text? (env : Environment) (name : String) : Option String :=
  (env name).bind fun value => (Text.ofBytes? value).map String.ofList

/-- The values of the settings. -/
def lookup (env : Environment) : Lookup := fun v => env.text? v.name

end Environment

/-- The variable that says which log records are shown. -/
def Log.variable : String := "RUST_LOG"

/-- The filter of log records that the environment names, and what is wrong with it. -/
def Log.Filter.ofEnvironment (env : Environment) : Log.Filter × List Log.FilterProblem :=
  match env.text? Log.variable with
  | some text => Log.Filter.ofText text.toList
  | none => ({}, [])

/-- What a run leaves behind. -/
structure Report where
  exitCode : UInt8
  output : String := ""
  /-- Standard error without log records, and without the accounts of crashes. -/
  errors : String := ""
  /-- The log records that are shown. -/
  records : List Log.Record := []
  /-- The requests that were sent. -/
  requests : List Http.Request := []
deriving DecidableEq, Repr

namespace Report

/-- A cause in an error report, behind what introduces it. Its further lines start as far in. -/
def causeText (label cause : String) : String :=
  let margin := "\n" ++ String.ofList (List.replicate label.length ' ')
  "\n" ++ label ++ margin.intercalate (cause.splitOn "\n")

/-- The causes in an error report. Several causes are numbered. -/
def causesText (causes : List String) : String :=
  match causes with
  | [] => ""
  | [cause] => "\n\nCaused by:" ++ causeText "    " cause
  | _ =>
    "\n\nCaused by:" ++ String.join (causes.zipIdx.map fun (cause, i) =>
      let number := toString i
      let margin := String.ofList (List.replicate (5 - number.length) ' ')
      causeText (margin ++ number ++ ": ") cause)

/-- The report of a run that could not decide, and why. -/
def ofError (message : String) (causes : List String) : Report :=
  { exitCode := 1, errors := "Error: " ++ message ++ causesText causes ++ "\n" }

/-- The report of a decision. -/
def ofOutcome (o : Outcome) : Report :=
  let line := o.line ++ "\n"
  if o.isSuccess then { exitCode := o.exitCode, output := line }
  else { exitCode := o.exitCode, errors := line }

/-- The report of a crash. -/
def crash : Report := { exitCode := 101 }

/-- The record that shows what a run was asked for. -/
def settingsRecord (request : CheckRequest) (options : ConnectionOptions) : Log.Record :=
  { level := .debug
    target := "check_local_status"
    text := request.describe ++ " " ++ options.describe }

/-- The report with all log records. -/
def full (env : Environment) (network : Network) : Report :=
  match (CheckRequest.ask env.lookup).answer with
  | .error e => ofError e.message []
  | .ok request =>
    match (ConnectionOptions.ask env.lookup).answer with
    | .error e => ofError e.message []
    | .ok options =>
      let settings := settingsRecord request options
      match Client.build (some request.credential) options with
      | .error (.refused e) =>
        { ofError "Failed to create GitHub client" [e.message] with records := [settings] }
      | .error .crashed => { crash with records := [settings] }
      | .ok client =>
        let call := client.check network request.repository request.commit request.requiredContext
        let report :=
          match call.result with
          | .error e =>
            ofError "Failed to fetch combined commit status" (e.causes network.account)
          | .ok outcome => ofOutcome outcome
        { report with records := settings :: call.records, requests := call.requests }

/-- The report of a run. -/
def ofRun (env : Environment) (network : Network) : Report :=
  let (filter, problems) := Log.Filter.ofEnvironment env
  let report := full env network
  { report with
    records := report.records.filter filter.shows
    errors := String.join (problems.map fun p => p.message ++ "\n") ++ report.errors }

end Report

end CommitGate
