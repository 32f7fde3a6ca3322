import CommitGate.Proofs.Settings

/-!
# The order of asking

Settings are read from their variables in turn (`Asked.InTurn`): each variable is asked for once, in
a fixed order, up to the first one at fault (`Lookup.FirstFault`), which is the answer. What is asked
in turn may be asked one after the other (`Asked.InTurn.bind`), so all readers have this law from that
of a single variable.
-/

namespace CommitGate

/-- The variables that are needed, in the order in which they are asked for. -/
def Variable.needed : List Variable := [.repository, .commit, .credential, .requiredContext]

theorem Variable.all_eq : Variable.all = Variable.needed ++ [.baseAddress, .timeout] := rfl

namespace Lookup

/-- **What is wrong with a variable**: it is needed and unset, or it is the timeout and names no number
of seconds. -/
inductive Fault (lookup : Lookup) : Variable → SettingsError → Prop
  | unset {v : Variable} (needed : v ∈ Variable.needed) (lacks : lookup.Lacks v) :
      Fault lookup v (.unset v)
  | unreadable {raw : String} (holds : lookup.Holds .timeout raw)
      (unread : ∀ n, ¬ NamesSeconds raw n) : Fault lookup .timeout (.invalid .timeout raw)

/-- Nothing is wrong with the variable. -/
def Sound (lookup : Lookup) (v : Variable) : Prop := ∀ e, ¬ lookup.Fault v e

/-- **The first variable at fault** of some that are asked for in turn: those in front of it are
sound. -/
structure FirstFault (lookup : Lookup) (vs front : List Variable) (v : Variable)
    (e : SettingsError) : Prop where
  order : ∃ behind, vs = front ++ v :: behind
  sound : ∀ w ∈ front, lookup.Sound w
  fault : lookup.Fault v e

section Faults

variable {lookup : Lookup} {vs ws front front' : List Variable} {v v' : Variable}
  {e e' : SettingsError}

theorem fault_iff_of_needed (hv : v ∈ Variable.needed) :
    lookup.Fault v e ↔ lookup.Lacks v ∧ e = .unset v := by
  constructor
  · intro h
    cases h with
    | unset _ lacks => exact ⟨lacks, rfl⟩
    | unreadable => exact absurd hv (by decide)
  · rintro ⟨lacks, rfl⟩
    exact .unset hv lacks

theorem sound_iff_of_needed (hv : v ∈ Variable.needed) : lookup.Sound v ↔ ¬ lookup.Lacks v := by
  constructor
  · intro hsound hlacks
    exact hsound (.unset v) (.unset hv hlacks)
  · intro hgiven e hfault
    exact hgiven ((fault_iff_of_needed hv).1 hfault).1

/-- Nothing is ever wrong with the address. -/
theorem sound_baseAddress : lookup.Sound .baseAddress := by
  intro e hfault
  cases hfault with
  | unset needed => exact absurd needed (by decide)

theorem fault_timeout_iff :
    lookup.Fault .timeout e ↔
      ∃ raw, lookup.Holds .timeout raw ∧ (∀ n, ¬ NamesSeconds raw n) ∧ e = .invalid .timeout raw := by
  constructor
  · intro h
    cases h with
    | unset needed => exact absurd needed (by decide)
    | unreadable holds unread => exact ⟨_, holds, unread, rfl⟩
  · rintro ⟨raw, holds, unread, rfl⟩
    exact .unreadable holds unread

theorem Holds.unique {text text' : String} (h : lookup.Holds v text) (h' : lookup.Holds v text') :
    text = text' := by
  have htext := h.1.symm.trans h'.1
  exact Option.some.inj htext

/-- Nothing is wrong with the timeout if it is unset, or names a number of seconds. -/
theorem sound_timeout_iff :
    lookup.Sound .timeout ↔ ∀ raw, lookup.Holds .timeout raw → ∃ n, NamesSeconds raw n := by
  constructor
  · intro hsound raw hholds
    refine Classical.not_not.1 fun hunread => ?_
    exact hsound _ (.unreadable hholds (not_exists.1 hunread))
  · intro h e hfault
    obtain ⟨raw, hholds, hunread, -⟩ := fault_timeout_iff.1 hfault
    obtain ⟨n, hnamed⟩ := h raw hholds
    exact hunread n hnamed

theorem Fault.unique (h : lookup.Fault v e) (h' : lookup.Fault v e') : e = e' := by
  cases h with
  | unset needed lacks => exact ((fault_iff_of_needed needed).1 h').2.symm
  | unreadable holds unread =>
    obtain ⟨raw', holds', -, rfl⟩ := fault_timeout_iff.1 h'
    rw [holds.unique holds']

/-! ### The first fault -/

/-- Of needed variables, the first that is unset is at fault. -/
theorem FirstFault.of_needed {behind : List Variable} (order : vs = front ++ v :: behind)
    (hneeded : ∀ w ∈ front ++ [v], w ∈ Variable.needed) (hfront : ∀ w ∈ front, ¬ lookup.Lacks w)
    (hlacks : lookup.Lacks v) : lookup.FirstFault vs front v (.unset v) := by
  refine ⟨⟨behind, order⟩, fun w hw => ?_, .unset (hneeded v (by simp)) hlacks⟩
  rw [sound_iff_of_needed (hneeded w (by simp [hw]))]
  exact hfront w hw

theorem FirstFault.append (h : lookup.FirstFault vs front v e) (ws : List Variable) :
    lookup.FirstFault (vs ++ ws) front v e := by
  obtain ⟨behind, rfl⟩ := h.order
  exact ⟨⟨behind ++ ws, by simp⟩, h.sound, h.fault⟩

theorem FirstFault.behind (h : lookup.FirstFault ws front v e) (hvs : ∀ w ∈ vs, lookup.Sound w) :
    lookup.FirstFault (vs ++ ws) (vs ++ front) v e := by
  obtain ⟨behind, rfl⟩ := h.order
  refine ⟨⟨behind, by simp⟩, fun w hw => ?_, h.fault⟩
  rcases List.mem_append.1 hw with hw | hw
  · exact hvs w hw
  · exact h.sound w hw

/-- Where all variables are sound, none is the first at fault. -/
theorem FirstFault.not_sound (h : lookup.FirstFault vs front v e) : ¬ ∀ w ∈ vs, lookup.Sound w := by
  intro hvs
  obtain ⟨behind, rfl⟩ := h.order
  exact hvs v (by simp) e h.fault

theorem FirstFault.unique (h : lookup.FirstFault vs front v e)
    (h' : lookup.FirstFault vs front' v' e') : front = front' ∧ v = v' ∧ e = e' := by
  obtain ⟨behind, hvs⟩ := h.order
  obtain ⟨behind', hvs'⟩ := h'.order
  -- a variable in front of the other one would be sound and at fault
  have hfront : front = front' := by
    rcases List.append_eq_append_iff.1 (hvs.symm.trans hvs') with ⟨more, hmore, hbehind⟩ |
      ⟨more, hmore, hbehind⟩
    · rcases more with _ | ⟨w, more⟩
      · rw [hmore, List.append_nil]
      · have hw : w = v := (List.cons.inj hbehind).1.symm
        exact absurd h.fault (h'.sound v (by rw [hmore, hw]; simp) e)
    · rcases more with _ | ⟨w, more⟩
      · rw [hmore, List.append_nil]
      · have hw : w = v' := (List.cons.inj hbehind).1.symm
        exact absurd h'.fault (h.sound v' (by rw [hmore, hw]; simp) e')
  subst hfront
  have hv : v = v' := (List.cons.inj (List.append_cancel_left (hvs.symm.trans hvs'))).1
  subst hv
  exact ⟨rfl, rfl, h.fault.unique h'.fault⟩

end Faults

end Lookup

/-! ### Asking in turn -/

namespace Asked

/-- **Asking for variables in turn**: all of them, if they are sound, and otherwise those up to the
first one at fault. -/
inductive InTurn {α : Type} (lookup : Lookup) (vs : List Variable) (a : Asked α) : Prop
  | passes {x : α} (names : a.names = vs) (answer : a.answer = .ok x)
      (sound : ∀ v ∈ vs, lookup.Sound v) : InTurn lookup vs a
  | stops {front : List Variable} {v : Variable} {e : SettingsError} (names : a.names = front ++ [v])
      (answer : a.answer = .error e) (first : lookup.FirstFault vs front v e) : InTurn lookup vs a

section Turns

variable {α β : Type} {lookup : Lookup} {vs ws front : List Variable} {v : Variable}
  {e : SettingsError} {a : Asked α}

theorem names_bind_of_ok (next : α → Asked β) {x : α} (h : a.answer = .ok x) :
    (a >>= next).names = a.names ++ (next x).names := by
  obtain ⟨names, answer⟩ := a
  cases h
  rfl

theorem names_bind_of_error (next : α → Asked β) (h : a.answer = .error e) :
    (a >>= next).names = a.names := by
  obtain ⟨names, answer⟩ := a
  cases h
  rfl

theorem answer_bind_of_ok (next : α → Asked β) {x : α} (h : a.answer = .ok x) :
    (a >>= next).answer = (next x).answer := by
  rw [answer_bind, h]
  rfl

theorem answer_bind_of_error (next : α → Asked β) (h : a.answer = .error e) :
    (a >>= next).answer = .error e := by
  rw [answer_bind, h]
  rfl

theorem inTurn_pure (x : α) : InTurn lookup [] (pure x : Asked α) :=
  .passes rfl rfl (by simp)

/-- **One after the other**: what is asked in turn behind what is asked in turn. -/
theorem InTurn.bind {next : α → Asked β} (h : InTurn lookup vs a)
    (hnext : ∀ x, a.answer = .ok x → InTurn lookup ws (next x)) :
    InTurn lookup (vs ++ ws) (a >>= next) := by
  cases h with
  | @passes x names answer sound =>
    have hnames := names_bind_of_ok next answer
    have hanswer := answer_bind_of_ok next answer
    rw [names] at hnames
    cases hnext x answer with
    | passes names' answer' sound' =>
      refine .passes (by rw [hnames, names']) (hanswer.trans answer') fun w hw => ?_
      rcases List.mem_append.1 hw with hw | hw
      · exact sound w hw
      · exact sound' w hw
    | stops names' answer' first =>
      refine .stops ?_ (hanswer.trans answer') (first.behind sound)
      rw [hnames, names', List.append_assoc]
  | stops names answer first =>
    have hnames := (names_bind_of_error next answer).trans names
    exact .stops hnames (answer_bind_of_error next answer) (first.append ws)

/-- What is asked in turn stops at the first fault. -/
theorem InTurn.eq_of_first (h : InTurn lookup vs a) (first : lookup.FirstFault vs front v e) :
    a = ⟨front ++ [v], .error e⟩ := by
  obtain ⟨names, answer⟩ := a
  cases h with
  | passes names answer sound => exact absurd sound first.not_sound
  | stops hnames hanswer first' =>
    obtain ⟨rfl, rfl, rfl⟩ := first.unique first'
    cases hnames
    cases hanswer
    rfl

theorem InTurn.eq_of_ok (h : InTurn lookup vs a) {x : α} (hx : a.answer = .ok x) :
    a = ⟨vs, .ok x⟩ := by
  obtain ⟨names, answer⟩ := a
  cases h with
  | passes hnames =>
    cases hnames
    cases hx
    rfl
  | stops _ hanswer =>
    cases hx
    cases hanswer

theorem InTurn.answer_eq_error_iff (h : InTurn lookup vs a) :
    a.answer = .error e ↔ ∃ front v, lookup.FirstFault vs front v e := by
  constructor
  · intro he
    cases h with
    | passes _ answer => cases he.symm.trans answer
    | stops _ answer first =>
      cases he.symm.trans answer
      exact ⟨_, _, first⟩
  · rintro ⟨front, v, first⟩
    rw [h.eq_of_first first]

/-! ### The readers -/

theorem names_required (lookup : Lookup) (v : Variable) : (required lookup v).names = [v] := by
  unfold required
  rw [names_bind_of_ok _ (answer_optional lookup v)]
  rcases lookup.given v with _ | text <;> rfl

theorem inTurn_required (hv : v ∈ Variable.needed) : InTurn lookup [v] (required lookup v) := by
  have hnames := names_required lookup v
  have hanswer := answer_required lookup v
  unfold Lookup.needed at hanswer
  rcases hgiven : lookup.given v with _ | text
  · have hlacks : lookup.Lacks v := Lookup.given_eq_none_iff.1 hgiven
    rw [hgiven] at hanswer
    have hfirst : lookup.FirstFault [v] [] v (.unset v) := ⟨⟨[], rfl⟩, by simp, .unset hv hlacks⟩
    exact .stops hnames hanswer hfirst
  · have hholds : lookup.Holds v text := Lookup.given_eq_some_iff.1 hgiven
    rw [hgiven] at hanswer
    refine .passes hnames hanswer fun w hw => ?_
    rw [List.mem_singleton.1 hw, Lookup.sound_iff_of_needed hv]
    intro hlacks
    exact hlacks text hholds

theorem inTurn_optional_baseAddress :
    InTurn lookup [.baseAddress] (optional lookup .baseAddress) := by
  refine .passes rfl (answer_optional lookup .baseAddress) fun w hw => ?_
  rw [List.mem_singleton.1 hw]
  exact Lookup.sound_baseAddress

end Turns

end Asked

section Readers

variable {lookup : Lookup}

/-- **What is checked** is read from the needed variables in turn. -/
theorem CheckRequest.inTurn_ask : Asked.InTurn lookup Variable.needed (CheckRequest.ask lookup) := by
  unfold CheckRequest.ask
  refine (Asked.inTurn_required (v := .repository) (by decide)).bind fun repository _ => ?_
  refine (Asked.inTurn_required (v := .commit) (by decide)).bind fun commit _ => ?_
  refine (Asked.inTurn_required (v := .credential) (by decide)).bind fun credential _ => ?_
  refine (Asked.inTurn_required (v := .requiredContext) (by decide)).bind
    fun requiredContext _ => ?_
  exact Asked.inTurn_pure _

/-- **How the server is reached** is read from the other two variables in turn. -/
theorem ConnectionOptions.inTurn_ask :
    Asked.InTurn lookup [.baseAddress, .timeout] (ConnectionOptions.ask lookup) := by
  unfold ConnectionOptions.ask
  refine Asked.inTurn_optional_baseAddress.bind fun baseAddress _ => ?_
  have hanswer := Asked.answer_optional lookup .timeout
  rcases hgiven : lookup.given .timeout with _ | raw
  · rw [hgiven] at hanswer
    refine .passes (Asked.names_bind_of_ok _ hanswer) (Asked.answer_bind_of_ok _ hanswer) fun w hw => ?_
    rw [List.mem_singleton.1 hw, Lookup.sound_timeout_iff]
    intro raw hholds
    exact absurd hholds (Lookup.given_eq_none_iff.1 hgiven raw)
  rw [hgiven] at hanswer
  have hholds : lookup.Holds .timeout raw := Lookup.given_eq_some_iff.1 hgiven
  rcases hseconds : secondsOfText? raw with _ | n
  · have hunread : ∀ n, ¬ NamesSeconds raw n := by
      intro n hnames
      rw [← secondsOfText?_eq_some_iff, hseconds] at hnames
      cases hnames
    have hfirst : lookup.FirstFault [.timeout] [] .timeout (.invalid .timeout raw) :=
      ⟨⟨[], rfl⟩, by simp, .unreadable hholds hunread⟩
    refine .stops ?_ ?_ hfirst
    · rw [Asked.names_bind_of_ok _ hanswer]
      simp only [hseconds]
      rfl
    · rw [Asked.answer_bind_of_ok _ hanswer]
      simp only [hseconds]
  · have hnames : NamesSeconds raw n := secondsOfText?_eq_some_iff.1 hseconds
    refine .passes (x := { baseAddress, timeout := some n }) ?_ ?_ fun w hw => ?_
    · rw [Asked.names_bind_of_ok _ hanswer]
      simp only [hseconds]
      rfl
    · rw [Asked.answer_bind_of_ok _ hanswer]
      simp only [hseconds]
      rfl
    · rw [List.mem_singleton.1 hw, Lookup.sound_timeout_iff]
      intro raw' hholds'
      rw [← hholds.unique hholds']
      exact ⟨n, hnames⟩

/-- Both variables are asked for, whatever they hold: only the last one is ever at fault. -/
theorem ConnectionOptions.names_ask (lookup : Lookup) :
    (ConnectionOptions.ask lookup).names = [.baseAddress, .timeout] := by
  have hturn : Asked.InTurn lookup [.baseAddress, .timeout] (ConnectionOptions.ask lookup) :=
    ConnectionOptions.inTurn_ask
  cases hturn with
  | passes names => exact names
  | @stops front v e names answer first =>
    obtain ⟨behind, horder⟩ := first.order
    rcases front with _ | ⟨w, _ | ⟨w', front⟩⟩
    · cases horder
      exact absurd first.fault (Lookup.sound_baseAddress e)
    · cases horder
      exact names
    · simp at horder

/-- All settings, one reader after the other. -/
def Lookup.askAll (lookup : Lookup) : Asked (CheckRequest × ConnectionOptions) := do
  let request ← CheckRequest.ask lookup
  let options ← ConnectionOptions.ask lookup
  return (request, options)

/-- **All settings** are read from all variables in turn. -/
theorem Lookup.inTurn_askAll : Asked.InTurn lookup Variable.all lookup.askAll := by
  rw [Variable.all_eq]
  unfold Lookup.askAll
  refine CheckRequest.inTurn_ask.bind fun request _ => ?_
  refine ConnectionOptions.inTurn_ask.bind fun options _ => ?_
  exact Asked.inTurn_pure _

theorem Lookup.answer_askAll (lookup : Lookup) :
    lookup.askAll.answer = do
      let request ← (CheckRequest.ask lookup).answer
      let options ← (ConnectionOptions.ask lookup).answer
      return (request, options) := by
  simp only [Lookup.askAll, Asked.answer_bind]
  rfl

/-- One of the two readers fails just if some variable is the first at fault. -/
theorem Lookup.exists_first_iff :
    (∃ front v e, lookup.FirstFault Variable.all front v e) ↔
      (∃ e, (CheckRequest.ask lookup).answer = .error e) ∨
        ∃ e, (ConnectionOptions.ask lookup).answer = .error e := by
  have hturn (e : SettingsError) :
      lookup.askAll.answer = .error e ↔ ∃ front v, lookup.FirstFault Variable.all front v e :=
    Lookup.inTurn_askAll.answer_eq_error_iff
  have hanswer := lookup.answer_askAll
  constructor
  · rintro ⟨front, v, e, first⟩
    have herror := (hturn e).2 ⟨front, v, first⟩
    rcases hr : (CheckRequest.ask lookup).answer with e' | request
    · exact .inl ⟨e', rfl⟩
    rcases ho : (ConnectionOptions.ask lookup).answer with e' | options
    · exact .inr ⟨e', rfl⟩
    rw [hanswer, hr, ho] at herror
    cases herror
  · intro h
    have herror : ∃ e, lookup.askAll.answer = .error e := by
      rw [hanswer]
      rcases hr : (CheckRequest.ask lookup).answer with e' | request
      · exact ⟨e', rfl⟩
      rcases ho : (ConnectionOptions.ask lookup).answer with e' | options
      · exact ⟨e', rfl⟩
      rcases h with ⟨e, he⟩ | ⟨e, he⟩
      · cases hr.symm.trans he
      · cases ho.symm.trans he
    obtain ⟨e, he⟩ := herror
    obtain ⟨front, v, first⟩ := (hturn e).1 he
    exact ⟨front, v, e, first⟩

end Readers

end CommitGate
