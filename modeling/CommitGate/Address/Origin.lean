import CommitGate.Address.Basic

/-!
# Origins

The origin of an address is what a connection is opened to: the scheme, the host and the port. Two
addresses have one origin if these agree; upper and lower case of a host mean the same, and the port
of a scheme counts where an address has none.
-/

namespace CommitGate

/-- What a connection is opened to. -/
structure Origin where
  /-- Whether the connection is encrypted. -/
  isEncrypted : Bool
  /-- The host, in lower case. -/
  host : String
  port : Nat
deriving DecidableEq, Repr

/-- The part of a text behind the last character for which `p` holds, if there is one. -/
def behindLast? (p : Char → Bool) (s : List Char) : Option (List Char) :=
  if s.any p then some (s.reverse.takeWhile fun c => !p c).reverse else none

/-- The port that a text names: decimal digits for a number below `2 ^ 16`, perhaps with a plus sign
in front. -/
def portOfText? (s : List Char) : Option Nat :=
  let digits := if s.head? = some '+' then s.tail else s
  if digits.isEmpty || !digits.all Char.isDigit then none
  else
    let n := digits.foldl (fun n c => n * 10 + (c.toNat - 0x30)) 0
    if n < Nat.pow 2 16 then some n else none

namespace Address

/-- The host of an address: what is behind user information and before a port. A host in brackets
keeps them. -/
def host (a : Address) : List Char :=
  let server := (behindLast? (· == '@') a.authority).getD a.authority
  match server with
  | '[' :: _ => server.takeWhile (· != ']') ++ [']']
  | _ => server.takeWhile (· != ':')

/-- The port of an address, if it names one. -/
def port? (a : Address) : Option Nat :=
  (behindLast? (· == ':') a.authority).bind portOfText?

/-- The origin of an address, if a connection can be opened to it: its scheme is one of the two for
web servers and its host is not empty. -/
def origin? (a : Address) : Option Origin :=
  let host := String.ofList (a.host.map Char.toLower)
  if host.isEmpty then none
  else
    match a.scheme with
    | some .http => some ⟨false, host, a.port?.getD 80⟩
    | some .https => some ⟨true, host, a.port?.getD 443⟩
    | _ => none

end Address

end CommitGate
