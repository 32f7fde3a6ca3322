import CommitGate.Text.Utf8

/-!
# Addresses

The addresses that a server is reached at and the routes on it, as texts are read into them: a
scheme and an authority, or a path alone, or an authority alone. Nothing is decoded or normalised:
the path and the query are the characters that were written, each of which has to be allowed there.
What stands behind a `#` is cut off and not looked at.
-/

namespace CommitGate

/-- Why a text is no address. -/
inductive AddressError where
  | tooLong
  /-- The path or the query has a character that is not allowed there. -/
  | invalidCharacter
  /-- Its scheme or its authority is not well formed. -/
  | malformed
deriving DecidableEq, Repr

/-- The error in words. -/
def AddressError.message : AddressError → String
  | tooLong => "uri too long"
  | invalidCharacter => "invalid uri character"
  | malformed => "invalid format"

/-- How an address is spoken to. -/
inductive Scheme where
  | http
  /-- Over an encrypted connection. -/
  | https
  | other (name : List Char)
deriving DecidableEq, Repr

/-- The path and the query of an address, as they are written. -/
structure Target where
  path : List Char
  /-- What stands behind a question mark, if there is one. -/
  query : Option (List Char) := none
deriving DecidableEq, Repr

/-- An address. -/
structure Address where
  /-- The scheme, if there is one. -/
  scheme : Option Scheme
  /-- The authority; empty if there is none. -/
  authority : List Char
  target : Target
deriving DecidableEq, Repr

/-! ### Path and query -/

/-- Whether a character may stand in a path. Every character beyond ASCII may. -/
def isPathChar (c : Char) : Bool :=
  let n := c.toNat
  n == 0x21 || n == 0x22 || (0x24 ≤ n && n ≤ 0x3B) || n == 0x3D || (0x40 ≤ n && n ≤ 0x5F) ||
    (0x61 ≤ n && n ≤ 0x7E) || 0x80 ≤ n

/-- Whether a character may stand in a query. Every character beyond ASCII may. -/
def isQueryChar (c : Char) : Bool :=
  let n := c.toNat
  n == 0x21 || (0x24 ≤ n && n ≤ 0x3B) || n == 0x3D || (0x3F ≤ n && n ≤ 0x7E) || 0x80 ≤ n

namespace Target

/-- The text of a path and a query. -/
def toText (t : Target) : List Char :=
  match t.query with
  | none => t.path
  | some query => t.path ++ '?' :: query

/-- Reads a path and a query, up to a `#`. -/
def parse (s : List Char) : Except AddressError Target :=
  let path := s.takeWhile fun c => c != '?' && c != '#'
  if !path.all isPathChar then .error .invalidCharacter
  else
    match s.drop path.length with
    | '?' :: rest =>
      let query := rest.takeWhile fun c => c != '#'
      if query.all isQueryChar then .ok { path, query := some query }
      else .error .invalidCharacter
    | _ => .ok { path }

end Target

/-! ### Authority -/

/-- Whether a character may stand in an authority. -/
def isAuthorityChar (c : Char) : Bool :=
  c.isAlphanum || "!$&'()*+,-.:;=@[]_~%".toList.contains c

/-- What is known of an authority that has been read up to some place. Colons and percent signs
count from the last `@` or `]` on. -/
structure AuthorityScan where
  colons : Nat := 0
  /-- Whether there was an opening bracket. -/
  isOpened : Bool := false
  /-- Whether there was a closing bracket. -/
  isClosed : Bool := false
  /-- Whether there was a percent sign. -/
  hasPercent : Bool := false
  /-- Whether the last character is an `@`. -/
  endsInAt : Bool := false
deriving DecidableEq, Repr

namespace AuthorityScan

/-- Takes in one more character, unless it may not stand there. -/
def next? (scan : AuthorityScan) (c : Char) : Option AuthorityScan :=
  if !isAuthorityChar c then none
  else
    let scan := { scan with endsInAt := c == '@' }
    if c = ':' then
      if 8 ≤ scan.colons then none else some { scan with colons := scan.colons + 1 }
    else if c = '[' then
      if scan.hasPercent || scan.isOpened then none else some { scan with isOpened := true }
    else if c = ']' then
      if !scan.isOpened || scan.isClosed then none
      else some { scan with isClosed := true, colons := 0, hasPercent := false }
    else if c = '@' then some { scan with colons := 0, hasPercent := false }
    else if c = '%' then some { scan with hasPercent := true }
    else some scan

/-- Whether an authority may end here. -/
def mayEnd (scan : AuthorityScan) : Bool :=
  scan.isOpened == scan.isClosed && scan.colons ≤ 1 && !scan.endsInAt && !scan.hasPercent

end AuthorityScan

/-- Whether a text is an authority. -/
def isAuthority (s : List Char) : Bool :=
  match s.foldlM AuthorityScan.next? {} with
  | some scan => scan.mayEnd
  | none => false

/-! ### Whole addresses -/

/-- Whether a character may stand in a scheme. -/
def isSchemeChar (c : Char) : Bool :=
  c.isAlphanum || c == '+' || c == '-' || c == '.' || c == '~'

/-- A scheme in front of `://`, and what is behind that. -/
def splitScheme? (s : List Char) : Option (List Char × List Char) :=
  let name := s.takeWhile isSchemeChar
  match s.drop name.length with
  | ':' :: '/' :: '/' :: rest => some (name, rest)
  | _ => none

/-- The scheme with a name. -/
def Scheme.ofName (name : List Char) : Scheme :=
  let lower := name.map Char.toLower
  if lower = "http".toList then .http
  else if lower = "https".toList then .https
  else .other name

/-- Whether a character ends an authority. -/
def endsAuthority (c : Char) : Bool := c == '/' || c == '?' || c == '#'

namespace Address

/-- The greatest number of bytes of an address. -/
def maxLength : Nat := 65534

/-- The greatest number of characters of a scheme. -/
def maxSchemeLength : Nat := 64

/-- Reads an address. -/
def parse (s : List Char) : Except AddressError Address :=
  if maxLength < Text.byteLength s then .error .tooLong
  else
    match s with
    | [] => .error .malformed
    | '/' :: _ =>
      match Target.parse s with
      | .error e => .error e
      | .ok target => .ok { scheme := none, authority := [], target }
    | ['*'] => .ok { scheme := none, authority := [], target := { path := ['*'] } }
    | _ =>
      match splitScheme? s with
      | none =>
        if isAuthority s then
          .ok { scheme := none, authority := s, target := { path := [] } }
        else .error .malformed
      | some (name, rest) =>
        if maxSchemeLength < name.length then .error .malformed
        else
          let authority := rest.takeWhile fun c => !endsAuthority c
          if authority.isEmpty || !isAuthority authority then .error .malformed
          else
            match Target.parse (rest.drop authority.length) with
            | .error e => .error e
            | .ok target => .ok { scheme := some (.ofName name), authority, target }

end Address

end CommitGate
