import CommitGate.Address.Origin

/-!
# Requests

A request for the document at a path of a server. It has no body, so its headers are all there is
besides the request line.
-/

namespace CommitGate.Http

/-- A header of a request. -/
structure Header where
  name : String
  value : String
deriving DecidableEq, Repr

/-- The line of a header. -/
def Header.line (h : Header) : String := h.name ++ ": " ++ h.value

/-- The values of the headers with a name. -/
def valuesOf (name : String) (headers : List Header) : List String :=
  (headers.filter fun h => h.name == name).map Header.value

/-- The headers whose names are not listed. -/
def without (names : List String) (headers : List Header) : List Header :=
  headers.filter fun h => !names.contains h.name

/-- The names of headers that say who asks. -/
def credentialNames : List String := ["authorization", "cookie", "proxy-authorization"]

/-- The names of headers that say something of a body. -/
def payloadNames : List String :=
  ["content-type", "content-length", "content-encoding", "transfer-encoding"]

/-- A request. -/
structure Request where
  origin : Origin
  /-- The document that it asks for. -/
  target : Target
  /-- The headers, by name. -/
  headers : List Header
deriving DecidableEq, Repr

namespace Request

/-- The request line. -/
def startLine (r : Request) : String := "GET " ++ String.ofList r.target.toText ++ " HTTP/1.1"

/-- The values of the headers with a name. -/
def values (r : Request) (name : String) : List String := valuesOf name r.headers

end Request

end CommitGate.Http
