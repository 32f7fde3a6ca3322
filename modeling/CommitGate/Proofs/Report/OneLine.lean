import CommitGate.Proofs.Report.Streams

/-!
# How many lines a decision takes

A decision is told by a line that has the required context in it, and the state that was sent if that
is not a success, both as they are (`Outcome.insertions`). Each line feed in them is one in what is
told (`Outcome.lineFeeds_line`), so a decision is one line just if neither of them has any
(`Report.one_line_iff`). What stands behind a line feed begins a line of its own, and may look like the
decision about another context (`Report.second_line_forged`).
-/

namespace CommitGate

open Status (Combined Entry State)

/-! ### Line feeds -/

/-- How many line feeds a text has. -/
def lineFeeds (text : String) : Nat := text.toList.count '\n'

/-- **The text is one line**: it has one line feed, at its end. -/
def IsOneLine (text : String) : Prop := lineFeeds text = 1 ∧ text.toList.getLast? = some '\n'

instance : DecidablePred IsOneLine := fun _ => inferInstanceAs (Decidable (_ ∧ _))

section LineFeeds

variable {text text' : String}

@[simp] theorem lineFeeds_append : lineFeeds (text ++ text') = lineFeeds text + lineFeeds text' := by
  rw [lineFeeds, String.toList_append, List.count_append, lineFeeds, lineFeeds]

theorem lineFeeds_eq_zero_iff : lineFeeds text = 0 ↔ '\n' ∉ text.toList := by
  rw [lineFeeds, List.count_eq_zero]

theorem lineFeeds_join_eq_zero_iff {texts : List String} :
    lineFeeds (String.join texts) = 0 ↔ ∀ text ∈ texts, '\n' ∉ text.toList := by
  rw [lineFeeds_eq_zero_iff, String.toList_join]
  simp

/-- What is ended by a line feed is one line just if it has no other. -/
theorem isOneLine_append_iff : IsOneLine (text ++ "\n") ↔ lineFeeds text = 0 := by
  have hend : (text ++ "\n").toList.getLast? = some '\n' := by simp
  have hfeeds : lineFeeds (text ++ "\n") = lineFeeds text + 1 := lineFeeds_append
  rw [IsOneLine, hfeeds, and_iff_left hend]
  omega

end LineFeeds

/-! ### Texts that are put into a line -/

/-- The texts that are put into the line of an outcome as they are. -/
def Outcome.insertions : Outcome → List String
  | passed c | missing c => [c]
  | notSuccessful c s => [c, s.toText]

/-- **A line has the line feeds of the texts that are put into it**, and no others. -/
theorem Outcome.lineFeeds_line (o : Outcome) :
    lineFeeds o.line = lineFeeds (String.join o.insertions) := by
  cases o with
  | passed c =>
    have hline : (passed c).line = c ++ " is success" := rfl
    have hend : lineFeeds " is success" = 0 := by decide
    rw [hline, lineFeeds_append, hend, insertions, String.join_cons, lineFeeds_append]
    rfl
  | missing c =>
    have hline : (missing c).line = "Missing required local status: " ++ c := rfl
    have hstart : lineFeeds "Missing required local status: " = 0 := by decide
    rw [hline, lineFeeds_append, hstart, Nat.zero_add, insertions, String.join_cons,
      lineFeeds_append]
    rfl
  | notSuccessful c s =>
    have hline : (notSuccessful c s).line =
        "Local status " ++ c ++ " is '" ++ s.toText ++ "', expected 'success'" := rfl
    have hstart : lineFeeds "Local status " = 0 := by decide
    have hmiddle : lineFeeds " is '" = 0 := by decide
    have hend : lineFeeds "', expected 'success'" = 0 := by decide
    simp only [hline, insertions, String.join_cons, lineFeeds_append, hstart, hmiddle, hend,
      Nat.zero_add, Nat.add_zero]
    rfl

/-- The texts are the required context, and the state of the entry that decides if it is no
success. -/
theorem mem_insertions_evaluate_iff {combined : Combined} {required text : String} :
    text ∈ (evaluate combined required).insertions ↔
      text = required ∨
        ∃ e, IsFirst combined.statuses required e ∧ e.state = some text ∧ text ≠ "success" := by
  rw [evaluate_eq_ofDeciding]
  simp only [← findRequired_eq_some_iff]
  rcases findRequired combined.statuses required with _ | ⟨context, _ | s⟩
  · simp [Outcome.ofDeciding, Outcome.insertions]
  · simp [Outcome.ofDeciding, Outcome.insertions]
  · by_cases hs : s = "success"
    · subst hs
      simp +contextual [Outcome.ofDeciding, Outcome.insertions]
    · simp only [Option.bind_some, Outcome.ofDeciding, if_neg hs, Outcome.insertions,
        State.toText_ofText, List.mem_cons, List.not_mem_nil, or_false, Option.some.injEq,
        exists_eq_left']
      refine or_congr_right ⟨?_, fun h => h.1.symm⟩
      rintro rfl
      exact ⟨rfl, hs⟩

/-- The line of a decision has no line feed just if the required context has none and the state of
the entry that decides has none. -/
theorem lineFeeds_line_evaluate_eq_zero_iff {combined : Combined} {required : String} :
    lineFeeds (evaluate combined required).line = 0 ↔
      '\n' ∉ required.toList ∧
        ∀ e s, IsFirst combined.statuses required e → e.state = some s → '\n' ∉ s.toList := by
  rw [Outcome.lineFeeds_line, lineFeeds_join_eq_zero_iff]
  simp only [mem_insertions_evaluate_iff]
  constructor
  · intro h
    refine ⟨h required (.inl rfl), fun e s hfirst hstate => ?_⟩
    by_cases hs : s = "success"
    · subst hs
      decide
    · exact h s (.inr ⟨e, hfirst, hstate, hs⟩)
  · rintro ⟨hrequired, hstates⟩ text (rfl | ⟨e, hfirst, hstate, -⟩)
    · exact hrequired
    · exact hstates e text hfirst hstate

namespace Report

section Runs

variable {env : Environment} {network : Network}

/-- An outcome is told on one of the streams, by its line. -/
theorem streams_ofOutcome_line (o : Outcome) :
    ((ofOutcome o).output = "" ∨ (ofOutcome o).errors = "") ∧
      (ofOutcome o).output ++ (ofOutcome o).errors = o.line ++ "\n" := by
  cases o with
  | passed c => exact ⟨.inr rfl, String.append_empty⟩
  | missing c | notSuccessful c s => exact ⟨.inl rfl, String.empty_append⟩

/-- **A decision is one line just if nothing breaks it.** A run that fetches a combined status tells
its decision on one stream, with the log records and what is wrong with their filter left out. What it
tells has the line feed at its end, those of the required context and those of the state that it
shows. So it is one line just if the value of the required context has no line feed, and the state of
the entry that decides has none. -/
theorem one_line_iff {request : CheckRequest} {combined : Combined}
    (h : Fetches env network request combined) :
    env.lookup.Holds .requiredContext request.requiredContext ∧
      ∃ told, (ofRun env network).errors = warnings env ++ told ∧
        ((ofRun env network).output = "" ∨ told = "") ∧
        (ofRun env network).output ++ told =
          (evaluate combined request.requiredContext).line ++ "\n" ∧
        lineFeeds ((ofRun env network).output ++ told) =
          lineFeeds (String.join (evaluate combined request.requiredContext).insertions) + 1 ∧
        (IsOneLine ((ofRun env network).output ++ told) ↔
          '\n' ∉ request.requiredContext.toList ∧
            ∀ e s, IsFirst combined.statuses request.requiredContext e → e.state = some s →
              '\n' ∉ s.toList) := by
  have hstreams := streams_full_of_fetches h
  simp only [streams, Prod.mk.injEq] at hstreams
  obtain ⟨-, houtput, htold⟩ := hstreams
  obtain ⟨hone, hline⟩ := streams_ofOutcome_line (evaluate combined request.requiredContext)
  have houtput' : (ofRun env network).output = (full env network).output := rfl
  rw [← houtput, ← htold] at hone hline
  refine ⟨h.holds, (full env network).errors, errors_ofRun env network, hone, ?_⟩
  rw [houtput', hline]
  refine ⟨rfl, ?_, isOneLine_append_iff.trans lineFeeds_line_evaluate_eq_zero_iff⟩
  rw [lineFeeds_append, Outcome.lineFeeds_line]
  rfl

/-- A run that neither crashes nor tells an error report fetches a combined status. -/
theorem exists_fetches (hcode : (ofRun env network).exitCode ≠ 101)
    (hhead : (full env network).errors.toList.head? ≠ some 'E') :
    ∃ request combined, Fetches env network request combined := by
  rcases crashes_or_fails_or_fetches env network with hcrash | ⟨message, causes, hfails⟩ | hfetches
  · exact absurd ((exitCode_ofRun_eq_iff_crashes network).2 hcrash) hcode
  · obtain ⟨-, -, htold⟩ := full_of_fails hfails
    rw [htold] at hhead
    exact absurd (by simp) hhead
  · exact hfetches

end Runs

end Report

/-- An environment in which a context is required of a server. -/
def Environment.requiring (context : String) : Environment := fun name =>
  ([("REPO", "octo/widgets"), ("PR_HEAD_SHA", "abc123"), ("GH_TOKEN", "t0ken"),
    ("REQUIRED_CONTEXT", context), ("GITHUB_API_URL", "http://stub")].lookup name).map
      fun value => Text.toBytes value.toList

/-- A network in which a server answers with a text. -/
def Network.answering (body : String) : Network :=
  let reply : Http.Reply := { body := Text.toBytes body.toList }
  { listens := fun _ => true, replies := [reply.toBytes] }

namespace Report

/-- A decision that shows a state is one line if the state has no line feed. -/
theorem one_line_of_pending :
    let env := Environment.requiring "ci/lint"
    let network := Network.answering
      "\x7b\"statuses\":[\x7b\"context\":\"ci/lint\",\"state\":\"pending\"\x7d]\x7d"
    ∃ request combined, Fetches env network request combined ∧ request.requiredContext = "ci/lint" ∧
      IsOneLine (ofRun env network).errors ∧
      ∀ e s, IsFirst combined.statuses "ci/lint" e → e.state = some s → '\n' ∉ s.toList := by
  intro env network
  have hrun : (ofRun env network).exitCode ≠ 101 ∧
      (full env network).errors.toList.head? ≠ some 'E' ∧ warnings env = "" ∧
      (ofRun env network).output = "" ∧ IsOneLine (ofRun env network).errors ∧
      env.lookup .requiredContext = some "ci/lint" := by
    decide +kernel
  obtain ⟨hcode, hhead, hwarnings, houtput, hline, hvalue⟩ := hrun
  obtain ⟨request, combined, hfetches⟩ := exists_fetches hcode hhead
  obtain ⟨⟨hholds, -⟩, told, htold, -, -, -, hone⟩ := one_line_iff hfetches
  have hcontext : request.requiredContext = "ci/lint" := Option.some.inj (hholds.symm.trans hvalue)
  rw [hwarnings, String.empty_append] at htold
  rw [houtput, String.empty_append, ← htold, hcontext] at hone
  exact ⟨request, combined, hfetches, hcontext, hline, (hone.1 hline).2⟩

/-- **A second line can be forged** from both sides. A commit passes for a required context with a line
feed in its name, and what is told begins with the line that another context is a success; and a
server answers with a state that has a line feed. -/
theorem second_line_forged :
    (let env := Environment.requiring "ci/build is success\nci/lint"
      let network := Network.answering ("\x7b\"statuses\":[\x7b\"context\":\"ci/build is success" ++
        "\\nci/lint\",\"state\":\"success\"\x7d]\x7d")
      (∃ request combined, Fetches env network request combined) ∧ (ofRun env network).errors = "" ∧
        (ofRun env network).output = "ci/build is success\nci/lint is success\n" ∧
        ¬ IsOneLine (ofRun env network).output) ∧
      let env := Environment.requiring "ci/lint"
      let network := Network.answering ("\x7b\"statuses\":[\x7b\"context\":\"ci/lint\"," ++
        "\"state\":\"x\\nci/build is success\\n\"\x7d]\x7d")
      (∃ request combined, Fetches env network request combined) ∧ (ofRun env network).output = "" ∧
        (ofRun env network).errors =
          "Local status ci/lint is 'x\nci/build is success\n', expected 'success'\n" ∧
        ¬ IsOneLine (ofRun env network).errors := by
  constructor
  · intro env network
    have hrun : (ofRun env network).exitCode ≠ 101 ∧
        (full env network).errors.toList.head? ≠ some 'E' ∧ (ofRun env network).errors = "" ∧
        (ofRun env network).output = "ci/build is success\nci/lint is success\n" := by
      decide +kernel
    obtain ⟨hcode, hhead, herrors, houtput⟩ := hrun
    refine ⟨exists_fetches hcode hhead, herrors, houtput, ?_⟩
    rw [houtput]
    decide
  · intro env network
    have hrun : (ofRun env network).exitCode ≠ 101 ∧
        (full env network).errors.toList.head? ≠ some 'E' ∧ (ofRun env network).output = "" ∧
        (ofRun env network).errors =
          "Local status ci/lint is 'x\nci/build is success\n', expected 'success'\n" := by
      decide +kernel
    obtain ⟨hcode, hhead, houtput, herrors⟩ := hrun
    refine ⟨exists_fetches hcode hhead, houtput, herrors, ?_⟩
    rw [herrors]
    decide

end Report

end CommitGate
