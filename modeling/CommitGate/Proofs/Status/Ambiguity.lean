import CommitGate.Proofs.Call.Results
import CommitGate.Proofs.Json.Repeated
import CommitGate.Status.Combined

/-!
# Payloads that say something twice

A payload is ambiguous if it has its list of statuses twice, or if an entry of that list has its
context or its state twice (`Ambiguous`). The two members may have any values and stand anywhere, and
nothing is asked of what stands behind the second one. No such payload is decoded, alone or by a call
(`ambiguous_refused`), so it never matters which of the two would count.
-/

namespace CommitGate.Status

open Json
open Relation (Comp)
open Text (toBytes toBytes_append)

/-! ### Ambiguous payloads -/

/-- **The payload says something twice.** Its blanks, its other members and the other entries may be
anything that can be skipped. -/
inductive Ambiguous : Bytes → Prop
  | statuses {body s : Bytes} (brace : Mark 0x7B body s) (repeats : Repeats "statuses" s) :
    Ambiguous body
  /-- An entry, behind others, repeats one of its keys. -/
  | entry {body s u v w x y : Bytes} {first last : Bool} (brace : Mark 0x7B body s)
    (before : Passes .object true s first u) (key : Key first "statuses" u v)
    (bracket : Mark 0x5B v w) (front : Passes .list true w last x)
    (start : Comp (Separator last) (Mark 0x7B) x y)
    (repeats : Repeats "context" y ∨ Repeats "state" y) : Ambiguous body

/-- **A tree that says something twice.** -/
inductive AmbiguousTree : Node → Prop
  | statuses {members : List (List Char × Node)} (twice : HasTwice "statuses" members) :
    AmbiguousTree (.object members)
  | entry {members fields : List (List Char × Node)} {key : List Char} {items : List Node}
    (written : TextWritten "statuses".toList key) (member : (key, .list items) ∈ members)
    (item : .object fields ∈ items) (twice : HasTwice "context" fields ∨ HasTwice "state" fields) :
    AmbiguousTree (.object members)

/-- A payload that starts with such a tree is ambiguous, in any spelling and whatever stands behind
the tree. -/
theorem ambiguous_of_written {n : Node} (h : AmbiguousTree n) {before t : List Char}
    (hbefore : Blanks before) (ht : n.Written t) (rest : Bytes) :
    Ambiguous (toBytes before ++ (toBytes t ++ rest)) := by
  cases h with
  | statuses twice =>
    cases ht with
    | @object _ row hrow =>
      exact .statuses (mark_object hbefore row rest) (repeats_of_hasTwice twice hrow rest)
  | entry written member item twice =>
    obtain ⟨front, behind, rfl⟩ := List.append_of_mem member
    obtain ⟨others, others', rfl⟩ := List.append_of_mem item
    cases ht with
    | @object _ row hrow =>
      obtain ⟨first, u, hfront, hleft⟩ := passes_of_row partsSkip_member hrow rest
      obtain ⟨blanks, _, behind', hkey, hblanks, hlist, -⟩ := key_of_left hleft written
      cases hlist with
      | @list _ items hitems =>
        obtain ⟨last, x, hothers, before', _, behind'', hseparator, hbefore', hobject, -⟩ :=
          passes_of_row partsSkip_element hitems (toBytes behind' ++ 0x7D :: rest)
        cases hobject with
        | @object _ fields hfields =>
          refine .entry (mark_object hbefore row rest) hfront hkey (mark_list hblanks items _) hothers
            ⟨_, hseparator, mark_object hbefore' fields _⟩ ?_
          exact twice.imp (fun h => repeats_of_hasTwice h hfields _)
            fun h => repeats_of_hasTwice h hfields _

/-! ### What is remembered of fields -/

theorem skips_entry_fields : ∀ field ∈ Entry.shape.fields, field.content.Skips := by
  simp only [Entry.shape, List.forall_mem_cons, List.not_mem_nil, false_implies, implies_true,
    and_true]
  exact ⟨Decoder.skips_string.orNull.map _, Decoder.skips_string.orNull.map _⟩

theorem marks_entry : Entry.shape.Marks where
  marks := by
    intro field hfield set s rest hset st
    simp only [Entry.shape, List.mem_cons, List.not_mem_nil, or_false] at hfield
    rcases hfield with rfl | rfl
    · obtain ⟨o, rfl, -⟩ := Decoder.reads_map_iff.1 hset
      rfl
    · obtain ⟨o, rfl, -⟩ := Decoder.reads_map_iff.1 hset
      rfl
  keeps := by
    intro field hfield set s rest hset other hother st hread
    simp only [Entry.shape, List.mem_cons, List.not_mem_nil, or_false] at hfield hother
    rcases hfield with rfl | rfl
    · obtain ⟨o, rfl, -⟩ := Decoder.reads_map_iff.1 hset
      rcases hother with rfl | rfl
      · rfl
      · exact hread
    · obtain ⟨o, rfl, -⟩ := Decoder.reads_map_iff.1 hset
      rcases hother with rfl | rfl
      · exact hread
      · rfl

theorem skips_combined_fields : ∀ field ∈ Combined.shape.fields, field.content.Skips := by
  simp only [Combined.shape, List.forall_mem_singleton]
  exact (skips_record skips_entry_fields).list.map _

theorem marks_combined : Combined.shape.Marks where
  marks := by
    intro field hfield set s rest hset st
    simp only [Combined.shape, List.mem_singleton] at hfield
    subst hfield
    obtain ⟨l, rfl, -⟩ := Decoder.reads_map_iff.1 hset
    rfl
  keeps := by
    intro field hfield set s rest hset other hother st hread
    simp only [Combined.shape, List.mem_singleton] at hfield hother
    subst hfield hother
    obtain ⟨l, rfl, -⟩ := Decoder.reads_map_iff.1 hset
    rfl

/-! ### Ambiguous payloads are refused -/

theorem field?_statuses : ∃ field, Combined.shape.field? "statuses" = some field ∧
    field.content = Entry.decoder.list.map fun l _ => some l := ⟨_, rfl, rfl⟩

theorem field?_entry :
    (∃ field, Entry.shape.field? "context" = some field) ∧
      ∃ field, Entry.shape.field? "state" = some field := ⟨⟨_, rfl⟩, _, rfl⟩

/-- An entry that has its context or its state twice is not read. -/
theorem not_reads_entry {s t : Bytes} (brace : Mark 0x7B s t)
    (repeats : Repeats "context" t ∨ Repeats "state" t) {e : Entry} {rest : Bytes} :
    ¬ Reads Entry.decoder.read e s rest := by
  intro h
  have hfields := fields_of_brace brace h
  obtain ⟨⟨context, hcontext⟩, state, hstate⟩ := field?_entry
  rcases repeats with repeats | repeats
  · exact not_fields_of_repeats skips_entry_fields marks_entry hcontext repeats hfields
  · exact not_fields_of_repeats skips_entry_fields marks_entry hstate repeats hfields

/-- A list with such an entry is not read. -/
theorem not_reads_entries {s t u v : Bytes} {last : Bool} (bracket : Mark 0x5B s t)
    (front : Passes .list true t last u) (start : Comp (Separator last) (Mark 0x7B) u v)
    (repeats : Repeats "context" v ∨ Repeats "state" v) {l : List Entry} {rest : Bytes} :
    ¬ Reads Entry.decoder.list.read l s rest := by
  intro h
  obtain ⟨t', bracket', hitems⟩ := Decoder.reads_list_iff.1 h
  obtain ⟨-, rfl⟩ := mark_unique bracket bracket'
  -- up to the entry that repeats a key nothing is asked of what is read
  obtain ⟨l', -, hrun⟩ := exists_run_of_passes (P := fun _ => True)
    (skips_record skips_entry_fields).part_of_item (fun _ => id) front (items_iff_run.1 hitems) trivial
  obtain ⟨w, separator, brace⟩ := start
  obtain ⟨_, _, e, -, he⟩ := exists_element_of_start
    ⟨w, separator, skipsTo_of_mark brace (by decide)⟩ hrun
  exact not_reads_entry (skipBlanks_cons rfl _) repeats he

/-- **An ambiguous payload is not read**, not even from its front. -/
theorem not_reads_of_ambiguous {body : Bytes} (h : Ambiguous body) {c : Combined} {rest : Bytes} :
    ¬ Reads Combined.decoder.read c body rest := by
  intro hread
  obtain ⟨field, hfield, hcontent⟩ := field?_statuses
  cases h with
  | statuses brace repeats =>
    exact not_fields_of_repeats skips_combined_fields marks_combined hfield repeats
      (fields_of_brace brace hread)
  | entry brace before key bracket front start repeats =>
    obtain ⟨_, hrun, -⟩ := fields_iff_run.1 (fields_of_brace brace hread)
    obtain ⟨st, set, w, -, hset, -⟩ :=
      exists_reads_of_passes skips_combined_fields hfield before key hrun
    rw [hcontent] at hset
    obtain ⟨l, -, hlist⟩ := Decoder.reads_map_iff.1 hset
    exact not_reads_entries bracket front start repeats hlist

/-- **No ambiguous payload is decoded.** What starts with a tree that says something twice is
ambiguous, however it is written and whatever stands behind it. Such a payload is refused, alone as
from its front; a call that ends with it in a successful response says that it is undecodable, and so
does the gate, which decides nothing. -/
theorem ambiguous_refused :
    (∀ n before t rest, AmbiguousTree n → Blanks before → n.Written t →
        Ambiguous (toBytes before ++ (toBytes t ++ rest))) ∧
      ∀ body, Ambiguous body →
        (∃ refusal, Combined.decoder.decode body = .error refusal) ∧
        ∃ refusal, Combined.decoder.decodeFront body = .error refusal ∧
          ∀ (client : Client) network repository commit visits status,
            client.Completes network (Client.statusRoute repository commit) visits status body →
            200 ≤ status ∧ status < 300 →
            (client.combinedStatus network repository commit).result =
                .error (.undecodable refusal) ∧
              ∀ required, (client.check network repository commit required).result =
                .error (.undecodable refusal) := by
  refine ⟨fun n before t rest h hbefore ht => ambiguous_of_written h hbefore ht rest,
    fun body h => ⟨?_, ?_⟩⟩
  · rcases hd : Combined.decoder.decode body with refusal | c
    · exact ⟨refusal, rfl⟩
    · obtain ⟨rest, hread, -⟩ := Decoder.decode_eq_ok_iff_reads.1 hd
      exact absurd hread (not_reads_of_ambiguous h)
  · rcases hd : Combined.decoder.decodeFront body with refusal | c
    · refine ⟨refusal, rfl, fun client network repository commit visits status hcompletes hstatus => ?_⟩
      have hresult : (client.combinedStatus network repository commit).result =
          .error (.undecodable refusal) := by
        rw [Client.combinedStatus_eq_fetch, hcompletes.fetch_eq.1,
          Client.ofAnswer_of_success hstatus, hd]
      refine ⟨hresult, fun required => ?_⟩
      rw [Client.check_result, hresult]
      rfl
    · obtain ⟨rest, hread⟩ := Decoder.decodeFront_eq_ok_iff_reads.1 hd
      exact absurd hread (not_reads_of_ambiguous h)

/-- An entry with two states, behind another entry: one of the keys is spelled by an escape, and the
payload goes on behind its end. -/
theorem ambiguous_refused_escaped :
    let body := toBytes ("\x7b\"statuses\":[\x7b\x7d,\x7b\"state\":\"failure\",\"id\":null," ++
      "\"st\\u0061te\":\"success\"\x7d]\x7d x").toList
    let client : Client :=
      { base := { scheme := some .http, authority := "stub".toList, target := { path := ['/'] } }
        token := none
        timeout := none }
    let network : Network :=
      { listens := fun _ => true, replies := [Http.Reply.toBytes { body }] }
    Ambiguous body ∧ (∃ refusal, Combined.decoder.decode body = .error refusal) ∧
      ∃ refusal, (client.check network "octo/widgets" "abc123" "ci/build").result =
        .error (.undecodable refusal) := by
  intro body client network
  have hkeys : ∀ key ∈ ["statuses", "state", "id", "failure", "success"], PlainText key.toList := by
    decide
  simp only [List.forall_mem_cons] at hkeys
  obtain ⟨hstatuses, hstate, hid, hfailure, hsuccess, -⟩ := hkeys
  have hletter : CharWritten 'a' ['\\', 'u', '0', '0', '6', '1'] :=
    .code ⟨_, _, _, _, 0, 0, 6, 1, rfl, .inl rfl, .inl rfl, .inl rfl, .inl rfl, rfl⟩
  have hescaped : TextWritten "state".toList ['s', 't', '\\', 'u', '0', '0', '6', '1', 't', 'e'] :=
    .cons (.plain (by decide : IsPlain 's')) (.cons (.plain (by decide : IsPlain 't'))
      (.cons hletter (textWritten_of_plain (by decide : PlainText ['t', 'e']))))
  have hstring : ∀ {text : String}, PlainText text.toList → (Node.string text.toList).Written _ :=
    fun h => .string (stringBody_of_textWritten (textWritten_of_plain h))
  have hentry := Node.Written.object (.more blanks_nil
    (memberWritten_of_plain hstate (hstring hfailure)) blanks_nil
    (.more blanks_nil (memberWritten_of_plain hid .null) blanks_nil (.one blanks_nil
      (.mk (stringBody_of_textWritten hescaped) blanks_nil blanks_nil (hstring hsuccess)) blanks_nil)))
  have htext := Node.Written.object (.one blanks_nil (memberWritten_of_plain hstatuses
    (.list (.more blanks_nil (.object (.none blanks_nil)) blanks_nil
      (.one blanks_nil hentry blanks_nil)))) blanks_nil)
  have htwice : HasTwice "state" [("state".toList, Node.string "failure".toList), ("id".toList, .null),
      (['s', 't', '\\', 'u', '0', '0', '6', '1', 't', 'e'], .string "success".toList)] :=
    ⟨[], _, [_], _, [], rfl, textWritten_of_plain hstate, hescaped⟩
  obtain ⟨hambiguous, hrefused⟩ := ambiguous_refused
  have hbody : Ambiguous body :=
    hambiguous _ [] _ (toBytes [' ', 'x']) (.entry (textWritten_of_plain hstatuses) (.head _)
      (.tail _ (.head _)) (.inr htwice)) blanks_nil htext
  let route : Address :=
    { scheme := none, authority := []
      target := { path := (Client.statusRoute "octo/widgets" "abc123").toList } }
  have hread : Http.Response.read? (Http.Reply.toBytes { body }) =
      some { status := 200, location := none, body := some body } := by decide +kernel
  have hjoined : client.join network.joinLimit route.target =
      .value (client.address route.target) := by decide +kernel
  have hmeets : client.Meets network route.target
      [{ origin := ⟨false, "stub", 80⟩, target := route.target, seesOther := false }] _ [] :=
    .chain rfl hjoined (.final ⟨by decide, rfl, by decide⟩ hread (.inr (by decide)))
  obtain ⟨hdecode, refusal, -, hcalls⟩ := hrefused body hbody
  obtain ⟨-, hcheck⟩ := hcalls client network "octo/widgets" "abc123" _ 200
    (.intro rfl hmeets rfl) (by decide)
  exact ⟨hbody, hdecode, refusal, hcheck "ci/build"⟩

end CommitGate.Status
