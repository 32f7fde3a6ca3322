import CommitGate.Json.Decoder

/-!
# Error documents

What a server says in the body of a response that reports a failure: a message, and perhaps where to
read about it and a list of any values with details.
-/

namespace CommitGate

open Json (Decoder Field Shape Value)

/-- What a server says about a failure. -/
structure ServerError where
  documentation : Option String
  errors : Option (List Value)
  message : String

namespace ServerError

/-- The error in words. -/
def describe (e : ServerError) : String :=
  let documentation :=
    match e.documentation with
    | none => ""
    | some address => "\nDocumentation URL: " ++ address
  let errors :=
    match e.errors with
    | none | some [] => ""
    | some values => "\nErrors:" ++ String.join (values.map fun v => "\n- " ++ v.toText)
  e.message ++ documentation ++ errors

/-- An error document while its fields are read: of each field, what was read if it was. -/
structure Draft where
  /-- Where to read about it, as read. -/
  documentation : Option (Option String) := none
  /-- Details, as read. -/
  errors : Option (Option (List Value)) := none
  /-- What failed, as read. -/
  message : Option String := none

/-- An error document has a message; the address is a string, `null` or absent, and the details are
a list, `null` or absent. -/
def shape : Shape Draft ServerError where
  name := "GitHubErrorBody"
  fields := [
    { name := "documentation_url"
      isRead := fun d => d.documentation.isSome
      content := Decoder.string.orNull.map fun s d => { d with documentation := some s } },
    { name := "errors"
      isRead := fun d => d.errors.isSome
      content := (Decoder.any 2).list.orNull.map fun l d => { d with errors := some l } },
    { name := "message"
      isRead := fun d => d.message.isSome
      content := Decoder.string.map fun s d => { d with message := some s } }]
  start := {}
  mayStopEarly := false
  finish := fun d =>
    match d.message with
    | none => .error (.missingField "message")
    | some message =>
      .ok
        { documentation := d.documentation.join
          errors := d.errors.join
          message }

/-- The decoder of error documents. -/
def decoder : Decoder ServerError := .record shape

end ServerError

end CommitGate
