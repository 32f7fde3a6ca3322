import CommitGate.Gate
import CommitGate.Proofs.Text.Quoted
import CommitGate.Settings

/-!
# What is told of values

Values that nobody has looked at are told in quotes: that of a variable that will not do, and in log
records the required context, the state, the repository and the commit. Whatever a value holds, it can
be read back from what is told, no character of it shows as anything else than a visible one, and
nothing in it ends the quotes (`values_told_safely`).
-/

namespace CommitGate

open Status (State)
open Text (Tells tells_quote tells_plain quote)

/-! ### Settings -/

namespace SettingsError

theorem tells_message_invalid (v : Variable) (value : String) :
    Tells (invalid v value).message [value] := by
  have hstart : Tells "environment variable " [] := tells_plain (by decide)
  have hname : Tells v.name [] := by
    cases v <;> exact tells_plain (by decide)
  have hmiddle : Tells " has invalid value " [] := tells_plain (by decide)
  exact ((hstart.append hname).append hmiddle).append (tells_quote value)

theorem message_invalid_inj {v : Variable} {value value' : String} :
    (invalid v value).message = (invalid v value').message ↔ value = value' := by
  refine ⟨fun h => ?_, congrArg fun w => (invalid v w).message⟩
  have hvalues := (tells_message_invalid v value).values_eq (tells_message_invalid v value') h
  exact List.singleton_inj.1 hvalues

end SettingsError

namespace CheckRequest

theorem tells_describe (r : CheckRequest) :
    Tells r.describe [r.repository, r.commit, r.requiredContext] := by
  have hrepository : Tells "CheckRequest \x7b repository: " [] := tells_plain (by decide)
  have hcommit : Tells ", commit_sha: " [] := tells_plain (by decide)
  have hcredential : Tells ", credential: " [] := tells_plain (by decide)
  have hsecret : Tells "Secret([REDACTED alloc::string::String])" [] := tells_plain (by decide)
  have hcontext : Tells ", required_context: " [] := tells_plain (by decide)
  have hend : Tells " \x7d" [] := tells_plain (by decide)
  have hnames := hrepository.append (tells_quote r.repository) |>.append hcommit
    |>.append (tells_quote r.commit)
  have hall := hnames.append hcredential |>.append hsecret |>.append hcontext
    |>.append (tells_quote r.requiredContext) |>.append hend
  unfold describe Secret.describe
  simpa using hall

/-- What is shown of a request is all of it but the credential. -/
theorem describe_inj {r r' : CheckRequest} :
    r.describe = r'.describe ↔ r.repository = r'.repository ∧ r.commit = r'.commit ∧
      r.requiredContext = r'.requiredContext := by
  constructor
  · intro h
    have hvalues := r.tells_describe.values_eq r'.tells_describe h
    simpa using hvalues
  · intro ⟨hrepository, hcommit, hcontext⟩
    unfold describe Secret.describe
    rw [hrepository, hcommit, hcontext]

end CheckRequest

/-! ### Outcomes -/

/-- The values that are told of a state in quotes. -/
def Status.State.quotedValues : State → List String
  | other text => [text]
  | _ => []

/-- The values that are told of an outcome in quotes. -/
def Outcome.quotedValues : Outcome → List String
  | passed c | missing c => [c]
  | notSuccessful c state => c :: state.quotedValues

theorem Status.State.tells_describe (state : State) : Tells state.describe state.quotedValues := by
  cases state with
  | success | pending | failure | error => exact tells_plain (by decide)
  | other text =>
    have hstart : Tells "Other(" [] := tells_plain (by decide)
    have hend : Tells ")" [] := tells_plain (by decide)
    exact (hstart.append (tells_quote text)).append hend

/-- States are told apart: a known one by its word, any other one by its text. -/
theorem Status.State.describe_inj {state state' : State} :
    state.describe = state'.describe ↔ state = state' := by
  refine ⟨fun h => ?_, congrArg describe⟩
  have hvalues := state.tells_describe.values_eq state'.tells_describe h
  cases state with
  | other text =>
    cases state' with
    | other text' => rw [List.singleton_inj.1 hvalues]
    | success | pending | failure | error => cases hvalues
  | success | pending | failure | error =>
    cases state' with
    | other text' => cases hvalues
    | success | pending | failure | error => first | rfl | exact absurd h (by decide)

namespace Outcome

theorem tells_describe (o : Outcome) : Tells o.describe o.quotedValues := by
  have hend : Tells " \x7d" [] := tells_plain (by decide)
  cases o with
  | passed c =>
    have hstart : Tells "Passed \x7b context: " [] := tells_plain (by decide)
    exact (hstart.append (tells_quote c)).append hend
  | missing c =>
    have hstart : Tells "Missing \x7b context: " [] := tells_plain (by decide)
    exact (hstart.append (tells_quote c)).append hend
  | notSuccessful c state =>
    have hstart : Tells "NotSuccessful \x7b context: " [] := tells_plain (by decide)
    have hstate : Tells ", state: " [] := tells_plain (by decide)
    have hall := hstart.append (tells_quote c) |>.append hstate |>.append state.tells_describe
      |>.append hend
    have hvalues : [] ++ [c] ++ [] ++ state.quotedValues ++ [] = c :: state.quotedValues := by simp
    rw [hvalues] at hall
    exact hall

/-- The kinds of outcomes are told apart by the first letter. -/
theorem head?_describe (o : Outcome) :
    o.describe.toList.head? =
      match o with
      | passed _ => some 'P'
      | missing _ => some 'M'
      | notSuccessful .. => some 'N' := by
  cases o with
  | passed c | missing c | notSuccessful c =>
    unfold describe
    generalize quote c = told
    simp

/-- With one context, what is left to tell apart is the state. -/
theorem describe_notSuccessful_inj {c : String} {state state' : State} :
    (notSuccessful c state).describe = (notSuccessful c state').describe ↔ state = state' := by
  unfold describe
  rw [String.append_left_inj, String.append_right_inj, Status.State.describe_inj]

theorem describe_inj {o o' : Outcome} : o.describe = o'.describe ↔ o = o' := by
  refine ⟨fun h => ?_, congrArg describe⟩
  have hkind : o.describe.toList.head? = o'.describe.toList.head? := by rw [h]
  rw [head?_describe, head?_describe] at hkind
  have hvalues := o.tells_describe.values_eq o'.tells_describe h
  cases o with
  | passed c =>
    cases o' with
    | passed c' => rw [List.singleton_inj.1 hvalues]
    | missing | notSuccessful => simp at hkind
  | missing c =>
    cases o' with
    | missing c' => rw [List.singleton_inj.1 hvalues]
    | passed | notSuccessful => simp at hkind
  | notSuccessful c state =>
    cases o' with
    | notSuccessful c' state' =>
      obtain rfl : c = c' := (List.cons_eq_cons.1 hvalues).1
      rw [describe_notSuccessful_inj.1 h]
    | passed | missing => simp at hkind

end Outcome

open Text (IsControl BreaksLine valuesIn? isVisible quoteBody endsEscaping)

/-- **Values are told safely.** The message about a variable tells its value in quotes, what is shown
of an outcome its context and its state, and what is shown of a request all but the credential. Each
of these texts determines the values in it, and what is told in quotes can be read back. No character
of the texts is hidden, a control character or a line break, and each quote inside a value that is
told is escaped. -/
theorem values_told_safely :
    (∀ v value, Tells (SettingsError.invalid v value).message [value]) ∧
      (∀ v value value', (SettingsError.invalid v value).message =
        (SettingsError.invalid v value').message ↔ value = value') ∧
      (∀ o : Outcome, Tells o.describe o.quotedValues) ∧
      (∀ o o' : Outcome, o.describe = o'.describe ↔ o = o') ∧
      (∀ r : CheckRequest, Tells r.describe [r.repository, r.commit, r.requiredContext]) ∧
      (∀ r r' : CheckRequest, r.describe = r'.describe ↔ r.repository = r'.repository ∧
        r.commit = r'.commit ∧ r.requiredContext = r'.requiredContext) ∧
      (∀ text values, Tells text values → valuesIn? text = some values ∧
        ∀ c ∈ text.toList, isVisible c = true ∧ ¬ IsControl c ∧ ¬ BreaksLine c) ∧
      ∀ value, (quote value).toList = '\x22' :: quoteBody value.toList ++ ['\x22'] ∧
        ∀ front behind, quoteBody value.toList = front ++ '\x22' :: behind →
          endsEscaping front = true := by
  refine ⟨SettingsError.tells_message_invalid, fun v value value' => ?_, Outcome.tells_describe,
    fun o o' => Outcome.describe_inj, CheckRequest.tells_describe,
    fun r r' => CheckRequest.describe_inj, fun text values h => ⟨h.valuesIn?_eq, fun c hc => ?_⟩,
    fun value => ⟨Text.toList_quote value, fun front behind h => ?_⟩⟩
  · exact SettingsError.message_invalid_inj
  · have hvisible := h.visible c hc
    exact ⟨hvisible, Text.not_control_of_isVisible hvisible⟩
  · exact Text.endsEscaping_of_quoteBody h

/-- A timeout with a line feed and a quote in it. -/
theorem values_told_safely_of_line_feed :
    let e : SettingsError := .invalid .timeout "5\n\"s"
    e.message = "environment variable REQUEST_TIMEOUT_SECS has invalid value \"5\\n\\\"s\"" ∧
      valuesIn? e.message = some ["5\n\"s"] ∧ '\n' ∉ e.message.toList ∧
      quoteBody "5\n\"s".toList = "5\\n\\".toList ++ '\x22' :: ['s'] ∧
      endsEscaping "5\\n\\".toList = true := by
  intro e
  obtain ⟨hmessage, -, -, -, -, -, htells, hquotes⟩ := values_told_safely
  obtain ⟨hvalues, hvisible⟩ := htells e.message ["5\n\"s"] (hmessage .timeout _)
  have hbody : quoteBody "5\n\"s".toList = "5\\n\\".toList ++ '\x22' :: ['s'] := by decide
  refine ⟨by decide, hvalues, fun hmem => ?_, hbody, (hquotes _).2 _ _ hbody⟩
  obtain ⟨-, -, hbreak⟩ := hvisible '\n' hmem
  exact hbreak (.inl (by decide))

end CommitGate
