import CommitGate.Http.Body

/-!
# Responses

A response as it is read from the bytes that a server sent, and the bytes of a plain response.
Responses that only announce another one are skipped.
-/

namespace CommitGate.Http

/-- A response whose head has been read. -/
structure Response where
  status : Nat
  /-- Where to look instead, if the response says so. -/
  location : Option Bytes
  /-- The body, if it came to its end. -/
  body : Option Bytes
deriving DecidableEq, Repr

/-- Whether a status announces another response. -/
def isInterim (status : Nat) : Bool := status < 200 && status != 101

namespace Response

/-- The response with a head, its body taken from the bytes behind that. -/
def ofHead? (head : Head) (rest : Bytes) : Option Response :=
  head.framing?.map fun framing =>
    { status := head.status
      location := (head.values "location").head?
      body := framing.read? rest }

/-- The response that the bytes spell, or `none` if they do not spell the whole head of one. -/
def read? (s : Bytes) : Option Response :=
  match h : Head.read? s with
  | none => none
  | some (head, rest) =>
    have := Head.length_lt_of_read? h
    if isInterim head.status then read? rest else ofHead? head rest
termination_by s.length

/-- Whether the response says that the document is to be looked for elsewhere. -/
def isRedirect (r : Response) : Bool := [301, 302, 303, 307, 308].contains r.status

/-- Whether the response says to see another document, which is asked for without a body. -/
def isSeeOther (r : Response) : Bool := r.status == 303

end Response

/-! ### Plain responses -/

/-- A response in which the length of the body is said. -/
structure Reply where
  status : String := "200 OK"
  location : Option String := none
  body : Bytes
deriving DecidableEq, Repr

/-- The bytes of a reply. -/
def Reply.toBytes (r : Reply) : Bytes :=
  let location :=
    match r.location with
    | none => ""
    | some text => "location: " ++ text ++ "\r\n"
  let length := "content-length: " ++ toString r.body.length ++ "\r\n"
  let head := "HTTP/1.1 " ++ r.status ++ "\r\n" ++ length ++ location ++ "\r\n"
  Text.toBytes head.toList ++ r.body

end CommitGate.Http
