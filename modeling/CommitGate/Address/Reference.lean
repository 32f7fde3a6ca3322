import CommitGate.Address.Basic
import CommitGate.Address.Host

/-!
# Following references

Where a reference leads, seen from the address that it was found at. The reference may be a whole
address, or leave out the scheme, the host, the path or all of these. The address that it leads to
is in normal form: the host is normal, a dot segment is taken out together with the segment that it
undoes, a backslash counts as a slash, and a character that has no place in an address is written as
its bytes, each behind a percent sign.
-/

namespace CommitGate

/-- An address of a web server in normal form. -/
structure WebAddress where
  /-- Whether the connection is encrypted. -/
  isEncrypted : Bool
  /-- The user information, with the `@` behind it; empty if there is none. -/
  userInfo : List Char
  host : List Char
  /-- The port, if it is not the usual one. -/
  port : Option Nat
  /-- What stands between the slashes of the path. -/
  segments : List (List Char)
  /-- The query, if there is one. -/
  query : Option (List Char)
deriving DecidableEq, Repr

/-- Where a reference leads. -/
inductive Destination where
  /-- To an address of a web server. -/
  | web (address : WebAddress)
  /-- To an address with another scheme, which no connection can be opened to. -/
  | beyond
deriving DecidableEq, Repr

/-! ### Percent signs -/

/-- A byte as a percent sign and two hexadecimal digits. -/
def percentByte (b : UInt8) : List Char :=
  let digit (n : Nat) : Char := (Text.hexDigit n).toUpper
  ['%', digit (b.toNat / 16), digit (b.toNat % 16)]

/-- The text with the characters for which `p` holds written as their bytes. -/
def percentEncode (p : Char → Bool) (s : List Char) : List Char :=
  s.flatMap fun c => if p c then (String.utf8EncodeChar c).flatMap percentByte else [c]

/-- Whether a character is no visible ASCII character and no space. -/
def isBeyondVisible (c : Char) : Bool := c.toNat < 0x20 || 0x7E < c.toNat

/-- The characters that are encoded in a query. -/
def isEncodedInQuery (c : Char) : Bool :=
  isBeyondVisible c || " \x22#<>'".toList.contains c

/-- The characters that are encoded in a path. -/
def isEncodedInPath (c : Char) : Bool :=
  isBeyondVisible c || " \x22#<>?^`\x7b\x7d".toList.contains c

/-- The characters that are encoded in user information. -/
def isEncodedInUserInfo (c : Char) : Bool :=
  isEncodedInPath c || "/:;=@[\\]|".toList.contains c

/-! ### Paths -/

/-- Whether a character separates the segments of a path. -/
def isSlash (c : Char) : Bool := c == '/' || c == '\\'

/-- Whether a segment stands for the place it is at. -/
def isDot (s : List Char) : Bool :=
  [".", "%2e"].contains (String.ofList (s.map Char.toLower))

/-- Whether a segment stands for the place above. -/
def isDoubleDot (s : List Char) : Bool :=
  ["..", ".%2e", "%2e.", "%2e%2e"].contains (String.ofList (s.map Char.toLower))

/-- The segments of a path once further ones are walked along. A dot segment at the end leaves an
empty one. -/
def walk (path : List (List Char)) : List (List Char) → List (List Char)
  | [] => path
  | [s] =>
    if isDoubleDot s then path.dropLast ++ [[]]
    else if isDot s then path ++ [[]]
    else path ++ [s]
  | s :: rest =>
    if isDoubleDot s then walk path.dropLast rest
    else if isDot s then walk path rest
    else walk (path ++ [s]) rest

/-- The segments that a text without query names. -/
def segmentsOf (s : List Char) : List (List Char) :=
  (s.splitOnP isSlash).map (percentEncode isEncodedInPath)

/-- A text before its first question mark, and the encoded query behind that. What stands behind a
`#` is cut off. -/
def splitQuery (s : List Char) : List Char × Option (List Char) :=
  let s := s.takeWhile (· != '#')
  let path := s.takeWhile (· != '?')
  match s.drop path.length with
  | [] => (path, none)
  | _ :: query => (path, some (percentEncode isEncodedInQuery query))

namespace WebAddress

/-- The address with another path, walked along from `start`, and another query. -/
def withPath (a : WebAddress) (start : List (List Char)) (s : List Char) : WebAddress :=
  let (path, query) := splitQuery s
  { a with segments := walk start (segmentsOf path), query }

/-! ### Authorities -/

/-- The user information in front of an `@`, in normal form. -/
def userInfoOf (s : List Char) : List Char :=
  let name := s.takeWhile (· != ':')
  let secret := s.drop (name.length + 1)
  let encode := percentEncode isEncodedInUserInfo
  if name.isEmpty && secret.isEmpty then []
  else if secret.isEmpty then encode name ++ ['@']
  else encode name ++ ':' :: encode secret ++ ['@']

/-- A host and what stands behind a colon after it. Colons in brackets do not count. -/
def splitPort (s : List Char) : List Char × List Char :=
  let host :=
    match s with
    | '[' :: _ =>
      let inside := s.takeWhile (· != ']')
      inside ++ (s.drop inside.length).takeWhile (· != ':')
    | _ => s.takeWhile (· != ':')
  (host, s.drop (host.length + 1))

/-- The port that a text names, or `none` if it names none that there is. Nothing, like the usual
port, is no port of its own. -/
def portOf? (usual : Nat) (s : List Char) : Option (Option Nat) :=
  if s.isEmpty then some none
  else
    match Host.valueOf? 10 s with
    | none => none
    | some n => if Nat.pow 2 16 ≤ n then none else if n = usual then some none else some (some n)

/-- The address that a text names which starts with an authority, perhaps behind more slashes. -/
def ofAuthority (names : Host.Names) (isEncrypted : Bool) (s : List Char) : Option WebAddress := do
  let s := s.dropWhile isSlash
  let authority := s.takeWhile fun c => !isSlash c && c != '?' && c != '#'
  let rest := s.drop authority.length
  let server := (authority.reverse.takeWhile (· != '@')).reverse
  let user := authority.take (authority.length - server.length - 1)
  let (host, port) := splitPort server
  let port ← portOf? (if isEncrypted then 443 else 80) port
  let host ← Host.normalize? names host
  let start : WebAddress :=
    { isEncrypted, userInfo := userInfoOf user, host, port, segments := [], query := none }
  let path := if (rest.head?.map isSlash).getD false then rest.tail else rest
  some (start.withPath [] path)

/-! ### References -/

/-- A scheme and what stands behind its colon. -/
def splitName? (s : List Char) : Option (List Char × List Char) :=
  match s with
  | [] => none
  | first :: _ =>
    let name := s.takeWhile fun c => c.isAlphanum || c == '+' || c == '-' || c == '.'
    if first.isAlpha then
      match s.drop name.length with
      | ':' :: rest => some (name.map Char.toLower, rest)
      | _ => none
    else none

/-- The address that a reference without a scheme names. -/
def follow (names : Host.Names) (base : WebAddress) (s : List Char) : Option WebAddress :=
  match s with
  | [] => some base
  | c :: rest =>
    if c = '#' then some base
    else if c = '?' then some { base with query := (splitQuery s).2 }
    else if isSlash c then
      if (rest.head?.map isSlash).getD false then ofAuthority names base.isEncrypted rest
      else some (base.withPath [] rest)
    else some (base.withPath base.segments.dropLast s)

/-- The text of a reference without blanks and control characters at its ends, and without tabs and
line breaks inside. -/
def clean (s : List Char) : List Char :=
  let isEdge (c : Char) : Bool := c.toNat ≤ 0x20
  let inner := ((s.dropWhile isEdge).reverse.dropWhile isEdge).reverse
  inner.filter fun c => c != '\t' && c != '\n' && c != '\r'

/-- The other schemes whose addresses name a server, with or without two slashes before it. -/
def serverSchemes : List (List Char) := ["ftp".toList, "ws".toList, "wss".toList]

/-- Where a text with another scheme leads: nowhere, if it is not even an address. -/
def ofOtherScheme (names : Host.Names) (name rest : List Char) : Option Destination :=
  if serverSchemes.contains name then (ofAuthority names false rest).map fun _ => .beyond
  else
    let text := name ++ ':' :: percentEncode isBeyondVisible (rest.takeWhile (· != '#'))
    match Address.parse text with
    | .ok _ => some .beyond
    | .error _ => none

/-- Where a reference leads. Without a base, the reference has to have a scheme. A scheme that is
the base's own, without two slashes behind it, counts as left out. -/
def resolve (names : Host.Names) (base : Option WebAddress) (reference : List Char) :
    Option Destination :=
  let s := clean reference
  match splitName? s with
  | none => (base.bind fun base => base.follow names s).map .web
  | some (name, rest) =>
    let isHttps := name == "https".toList
    if isHttps || name == "http".toList then
      let address? :=
        match base with
        | some base =>
          if base.isEncrypted == isHttps && !(rest.take 2 == ['/', '/']) then
            base.follow names rest
          else ofAuthority names isHttps rest
        | none => ofAuthority names isHttps rest
      address?.map .web
    else ofOtherScheme names name rest

/-- The text of an address. -/
def toText (a : WebAddress) : List Char :=
  let scheme := if a.isEncrypted then "https://" else "http://"
  let port :=
    match a.port with
    | none => []
    | some n => ':' :: (toString n).toList
  let query :=
    match a.query with
    | none => []
    | some query => '?' :: query
  scheme.toList ++ a.userInfo ++ a.host ++ port ++ a.segments.flatMap ('/' :: ·) ++ query

end WebAddress

/-- The text of an address that has a scheme. -/
def Address.toText (a : Address) : List Char :=
  let scheme :=
    match a.scheme with
    | none => []
    | some .http => "http://".toList
    | some .https => "https://".toList
    | some (.other name) => name ++ "://".toList
  scheme ++ a.authority ++ a.target.toText

/-- Where a reference that was found at an address leads, if it leads anywhere: to an address, which
is `none` if no connection can be opened to it. -/
def Address.follow? (names : Host.Names) (a : Address) (reference : List Char) :
    Option (Option Address) :=
  match WebAddress.resolve names none a.toText with
  | some (.web base) =>
    match WebAddress.resolve names (some base) reference with
    | some (.web destination) =>
      match Address.parse destination.toText with
      | .ok address => some (some address)
      | .error _ => none
    | some .beyond => some none
    | none => none
  | _ => none

end CommitGate
