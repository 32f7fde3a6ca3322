import CommitGate.Decimal.Shortest

/-!
# JSON values

A JSON value as data. A number is a natural number below `2 ^ 64`, a negative integer down to
`-2 ^ 63`, or a double precision number; an object has its members in the byte order of their keys,
each key once.
-/

namespace CommitGate.Json

open Decimal (Binary64)

/-- A JSON number. -/
inductive Number where
  | natural (n : Nat)
  /-- The negative of a positive natural number. -/
  | negative (n : Nat)
  /-- A number of double precision. -/
  | real (x : Binary64)
deriving DecidableEq, Repr

/-- A JSON value. -/
inductive Value where
  /-- The word `null`. -/
  | null
  | boolean (b : Bool)
  | number (n : Number)
  | string (s : String)
  | list (items : List Value)
  /-- Members, each a key with its value. -/
  | object (members : List (String × Value))
deriving Inhabited

namespace Value

/-- The members of an object once a member is put among them: in its place by key, instead of one
that has the key already. -/
def insertMember (key : String) (value : Value) : List (String × Value) → List (String × Value)
  | [] => [(key, value)]
  | (k, v) :: rest =>
    if key = k then (key, value) :: rest
    else if key < k then (key, value) :: (k, v) :: rest
    else (k, v) :: insertMember key value rest

/-- The value of a member, if the value is an object that has it. -/
def member? (key : String) : Value → Option Value
  | object members => (members.find? fun m => m.1 == key).map (·.2)
  | _ => none

end Value

end CommitGate.Json
