import CommitGate.Json.Decoder
import CommitGate.Status.State

/-!
# The combined status of a commit

The statuses that were reported for a commit, as the server lists them. Decoding is lenient: what is
absent is left out instead of refused, and members with other names are ignored.
-/

namespace CommitGate.Status

open Json (Decoder Field Shape)

/-- One status that was reported. -/
structure Entry where
  /-- The name of the status context. -/
  context : Option String := none
  state : Option String := none
deriving DecidableEq, Repr

namespace Entry

/-- The state of the entry, if it has one. -/
def state? (e : Entry) : Option State := e.state.map State.ofText

end Entry

/-- The combined status of a commit. -/
structure Combined where
  /-- The statuses in the order in which the server lists them. -/
  statuses : List Entry := []
deriving DecidableEq, Repr

/-! ### Decoding -/

/-- An entry while its fields are read: of each field, what was read if it was. -/
structure EntryDraft where
  context : Option (Option String) := none
  state : Option (Option String) := none

/-- An entry has a context and a state, each a string, `null` or absent. -/
def Entry.shape : Shape EntryDraft Entry where
  name := "StatusEntry"
  fields := [
    { name := "context"
      isRead := fun d => d.context.isSome
      content := Decoder.string.orNull.map fun s d => { d with context := some s } },
    { name := "state"
      isRead := fun d => d.state.isSome
      content := Decoder.string.orNull.map fun s d => { d with state := some s } }]
  start := {}
  mayStopEarly := true
  finish := fun d => .ok { context := d.context.join, state := d.state.join }

/-- The decoder of entries. -/
def Entry.decoder : Decoder Entry := .record Entry.shape

/-- A combined status has a list of entries, which may be absent. -/
def Combined.shape : Shape (Option (List Entry)) Combined where
  name := "CombinedStatusResponse"
  fields := [
    { name := "statuses"
      isRead := Option.isSome
      content := Entry.decoder.list.map fun l _ => some l }]
  start := none
  mayStopEarly := true
  finish := fun d => .ok { statuses := d.getD [] }

/-- The decoder of combined statuses. -/
def Combined.decoder : Decoder Combined := .record Combined.shape

end CommitGate.Status
