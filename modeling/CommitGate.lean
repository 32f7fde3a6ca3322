import CommitGate.CommandLine
import CommitGate.Main
import CommitGate.Proofs.Call.Body
import CommitGate.Proofs.Call.Results
import CommitGate.Proofs.Call.Route
import CommitGate.Proofs.Call.Timeout
import CommitGate.Proofs.Exchange.Credential
import CommitGate.Proofs.Exchange.Trail
import CommitGate.Proofs.Gate.FirstMatch
import CommitGate.Proofs.Report.Faults
import CommitGate.Proofs.Report.Options
import CommitGate.Proofs.Report.Secrecy
import CommitGate.Proofs.Report.Setup
import CommitGate.Proofs.Report.Streams
import CommitGate.Proofs.Report.Verdict
import CommitGate.Proofs.Settings.Order
import CommitGate.Proofs.Status.Agreement
import CommitGate.Proofs.Status.Spelling
import CommitGate.Proofs.Exchange.Headers
import CommitGate.Proofs.Job.Awaiting
import CommitGate.Proofs.Address.Parts
import CommitGate.Proofs.Call.BasePath
import CommitGate.Proofs.Address.Origin
import CommitGate.Proofs.Address.Reference
import CommitGate.Proofs.Http.Request
import CommitGate.Proofs.Call.Requests
import CommitGate.Proofs.Settings.Timeout
import CommitGate.Proofs.Report.OneLine
import CommitGate.Proofs.Status.Ambiguity
import CommitGate.Proofs.Call.Delivery
import CommitGate.Proofs.Report.Values
import CommitGate.Proofs.Gate.Lines
import CommitGate.Proofs.Call.Records
import CommitGate.Proofs.Call.Base
import CommitGate.Proofs.Gate.Canonical
