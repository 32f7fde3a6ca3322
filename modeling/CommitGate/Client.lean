import CommitGate.Http.Request
import CommitGate.Job
import CommitGate.Settings
import CommitGate.Text.Utf8

/-!
# Clients

A client knows the address that routes are joined to and what it sends along with every request. A
text that cannot be used as an address is refused when the client is built; one that can be read as
an address and leads nowhere is not.
-/

namespace CommitGate

/-- A client. -/
structure Client where
  /-- The address that routes are joined to. -/
  base : Address
  token : Option Secret
  /-- The number of seconds to wait for the server. -/
  timeout : Option Nat
deriving DecidableEq

/-- Why setting up a client was refused. -/
structure SetupRefusal where
  reason : String
deriving DecidableEq, Repr

/-- The refusal in words. -/
def SetupRefusal.message (r : SetupRefusal) : String := "Client setup failed: " ++ r.reason

/-- Why there is no client. -/
inductive SetupError where
  | refused (refusal : SetupRefusal)
  | crashed
deriving DecidableEq, Repr

namespace Client

/-! ### Setting up -/

/-- The address that routes are joined to if none is given. -/
def defaultBase : List Char := "https://api.github.com".toList

/-- The refusal of a text that is no address. -/
def unusableAddress : SetupRefusal := ⟨"UriParse"⟩

/-- Whether a character may stand in the value of a header: all but control characters of ASCII, and
the tab. -/
def isHeaderChar (c : Char) : Bool := c == '\t' || (0x20 ≤ c.toNat && c.toNat != 0x7F)

/-- Whether a credential may be sent. -/
def isLegalToken (token : Secret) : Bool := token.expose.toList.all isHeaderChar

/-- Sets up a client. The address is looked at first; a credential that may not be sent is a crash.
-/
def build (token : Option Secret) (options : ConnectionOptions) : Except SetupError Client :=
  let text := (options.baseAddress.map String.toList).getD defaultBase
  match Address.parse text with
  | .error _ => .error (.refused unusableAddress)
  | .ok base =>
    if token.all isLegalToken then .ok { base, token, timeout := options.timeout }
    else .error .crashed

/-! ### Requests -/

/-- The media type that is asked for. -/
def mediaType : String := "application/vnd.github+json"

/-- The version of the interface that is asked for. -/
def interfaceVersion : String := "2022-11-28"

/-- The headers of the first request, by name. -/
def headers (client : Client) : List Http.Header :=
  let authorization : List Http.Header :=
    client.token.toList.map fun token => ⟨"authorization", "Bearer " ++ token.expose⟩
  [⟨"accept", mediaType⟩] ++ authorization ++
    [⟨"content-length", "0"⟩, ⟨"user-agent", "octocrab"⟩,
      ⟨"x-github-api-version", interfaceVersion⟩]

/-- The path of the base without the slashes at its end. -/
def basePath (client : Client) : List Char :=
  (client.base.target.path.reverse.dropWhile (· == '/')).reverse

/-- The address of a route: the path of the base is put in front, unless the route begins with it.
-/
def address (client : Client) (route : Target) : Address :=
  let path :=
    if client.basePath.isPrefixOf route.path then route.path else client.basePath ++ route.path
  { client.base with target := { route with path } }

/-- The address of a route, put together by the worker that hands on the requests of the client. It
crashes over a base that has an authority and no scheme, and over a path and query with more bytes
together than the limit, if there is one. -/
def join (client : Client) (limit : Option Nat) (route : Target) : Ending Address :=
  let address := client.address route
  if client.base.scheme = none ∧ client.base.authority ≠ [] then .crash
  else if limit.any (· < Text.byteLength address.target.toText) then .crash
  else .value address

/-! ### Waiting -/

/-- The first number of seconds that the clock cannot hold: it counts in signed numbers of 64 bits. -/
def clockBound : Nat := Nat.pow 2 63

/-- Up to when a connection waits, if there is a timeout, seen from what the clock reads. Its task
crashes over a time that the clock cannot hold. -/
def deadline (client : Client) (clock : Nat) : Ending (Option Nat) :=
  match client.timeout with
  | none => .value none
  | some n => if clock + n < clockBound then .value (some (clock + n)) else .crash

/-- Whether a connection can wait, seen from what the clock reads. -/
def canWait (client : Client) (clock : Nat) : Bool := (client.deadline clock).isValue

end Client

end CommitGate
