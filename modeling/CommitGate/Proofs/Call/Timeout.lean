import CommitGate.Proofs.Client
import CommitGate.Proofs.Exchange.Trail
import CommitGate.Proofs.Settings

/-!
# Timeouts that do not elapse

A timeout changes nothing of a client but which connections can wait. The time up to which one waits is
counted from what the clock reads by then, so it is this sum that the clock has to hold
(`Client.canWait_iff`). A call is the same as without its timeout (`Client.untimed`) just if the
connections for all requests that it sends without it can wait (`Client.timeout_invisible_iff`). Not
all timeouts that the settings accept can be waited for, and the longest ones never
(`Client.timeout_visible_at_bound`).
-/

namespace CommitGate

open Http (Response)

section Webs

variable {web web' : Web} {budget : Nat} {address : Address} {replies left : List Bytes}
  {visits : List Visit} {last : Option Response}

/-- For each visit of a chain a connection comes about, one time of going elsewhere fewer each. -/
theorem Chain.connects (h : Chain web budget address replies visits last left) {i : Nat}
    (hi : i < visits.length) : ∃ origin, web.connects (budget - i) origin = true := by
  induction h generalizing i with
  | unreachable => exact absurd hi (Nat.not_lt_zero i)
  | closed reaches | garbled reaches | beyond reaches | final reaches =>
    obtain rfl : i = 0 := Nat.lt_one_iff.1 hi
    exact ⟨_, reaches.connects⟩
  | hop reaches read leads rest ih =>
    rcases i with _ | i
    · exact ⟨_, reaches.connects⟩
    · rw [Nat.succ_sub_succ]
      exact ih (Nat.lt_of_succ_lt_succ hi)

/-- **A chain is one on another web too** if hosts have the same names there, no connection comes about
that does not come about here, and those for the visits of the chain do. -/
theorem Chain.transfer (h : Chain web budget address replies visits last left)
    (names : web'.names = web.names)
    (fewer : ∀ budget origin, web'.connects budget origin = true → web.connects budget origin = true)
    (connects : ∀ i < visits.length, ∀ origin, web.connects (budget - i) origin = true →
      web'.connects (budget - i) origin = true) :
    Chain web' budget address replies visits last left := by
  have reached {budget : Nat} {address : Address} {place : Place} {visits : List Visit}
      {visit : Visit} (reaches : address.Reaches web budget place)
      (connects : ∀ i < (visit :: visits).length, ∀ origin,
        web.connects (budget - i) origin = true → web'.connects (budget - i) origin = true) :
      address.Reaches web' budget place :=
    ⟨reaches.origin, connects 0 (Nat.succ_pos _) _ reaches.connects, reaches.target⟩
  induction h with
  | unreachable silent =>
    refine .unreachable fun place reaches => silent place ?_
    exact ⟨reaches.origin, fewer _ _ reaches.connects, reaches.target⟩
  | closed reaches => exact .closed (reached reaches connects)
  | garbled reaches unread => exact .garbled (reached reaches connects) unread
  | beyond reaches read leads =>
    exact .beyond (reached reaches connects) read (names ▸ leads)
  | hop reaches read leads rest ih =>
    refine .hop (reached reaches connects) read (names ▸ leads) (ih fun i hi origin => ?_)
    have hnext := connects (i + 1) (Nat.succ_lt_succ hi) origin
    rwa [Nat.succ_sub_succ] at hnext
  | final reaches read stays =>
    exact .final (reached reaches connects) read (names ▸ stays)

end Webs

namespace Client

/-- The client without its timeout. -/
def untimed (client : Client) : Client := { client with timeout := none }

/-- **The connections for a number of requests can wait**, one after another. -/
def WaitsThrough (client : Client) (network : Network) (requests : Nat) : Prop :=
  ∀ i < requests, client.canWait (network.clock (Exchange.maxRedirects - i)) = true

section Timeouts

variable {client : Client} {network : Network} {route : String} {visits : List Visit}
  {last : Option Response} {left : List Bytes}

theorem canWait_iff {clock : Nat} :
    client.canWait clock = true ↔ ∀ n, client.timeout = some n → clock + n < clockBound := by
  unfold canWait deadline
  rcases client.timeout with _ | n
  · simp [Ending.isValue]
  · by_cases hn : clock + n < clockBound
    · simp [hn, Ending.isValue]
    · simp [hn, Ending.isValue]

/-- A client is set up with a timeout just as it is without one. -/
theorem build_untimed (token : Option Secret) (options : ConnectionOptions) :
    build token { options with timeout := none } = (build token options).map untimed := by
  rw [build_eq, build_eq]
  rcases Address.parse (baseText options.baseAddress) with e | base
  · rfl
  · by_cases htoken : token.all isLegalToken = true
    · simp only [if_pos htoken]
      rfl
    · simp only [if_neg htoken]
      rfl

/-! ### One call -/

/-- What a client meets without its timeout, it meets with it too if it can wait for all of that. -/
theorem Meets.of_untimed {target : Target} (h : client.untimed.Meets network target visits last left)
    (waits : client.WaitsThrough network visits.length) :
    client.Meets network target visits last left := by
  refine h.transfer rfl rfl rfl fun address along => along.transfer rfl ?_ ?_
  · intro budget origin hconnects
    simp only [web, Bool.and_eq_true] at hconnects ⊢
    exact ⟨hconnects.1, rfl⟩
  · intro i hi origin hconnects
    simp only [web, Bool.and_eq_true] at hconnects ⊢
    exact ⟨hconnects.1, waits i hi⟩

/-- What a client meets, it has waited for. -/
theorem Meets.waitsThrough {target : Target} (h : client.Meets network target visits last left) :
    client.WaitsThrough network visits.length := by
  intro i hi
  cases h with
  | lost => exact absurd hi (Nat.not_lt_zero i)
  | chain served joined along =>
    obtain ⟨origin, hconnects⟩ := along.connects hi
    simp only [web, Bool.and_eq_true] at hconnects
    exact hconnects.2

/-- The connections for all requests that a call sends can wait. -/
theorem waitsThrough_fetch (client : Client) (network : Network) (route : String) :
    client.WaitsThrough network (client.fetch network route).requests.length := by
  rcases hp : Address.parse route.toList with e | address
  · rw [fetch_eq_of_bad hp]
    exact fun i hi => absurd hi (Nat.not_lt_zero i)
  · obtain ⟨visits, last, left, hm⟩ := client.exists_meets network address.target
    rw [fetch_eq hp hm, length_requestsAlong]
    exact hm.waitsThrough

/-- A call is the same without the timeout if all that it sends then can be waited for. -/
theorem fetch_eq_untimed
    (waits : client.WaitsThrough network (client.untimed.fetch network route).requests.length) :
    client.fetch network route = client.untimed.fetch network route := by
  rcases hp : Address.parse route.toList with e | address
  · rw [fetch_eq_of_bad hp, fetch_eq_of_bad hp]
  · obtain ⟨visits, last, left, hm⟩ := client.untimed.exists_meets network address.target
    rw [fetch_eq hp hm, length_requestsAlong] at waits
    have hserved : (client.serve network address.target).isValue =
        (client.untimed.serve network address.target).isValue := isValue_serve_congr rfl rfl
    rw [fetch_eq hp hm, fetch_eq hp (hm.of_untimed waits), hserved]
    rfl

/-- What is asked without a timeout has nothing to do with the clock. -/
theorem fetch_untimed_clock (client : Client) (network : Network) (route : String)
    (clock : Nat → Nat) :
    (client.untimed.fetch { network with clock } route).requests =
      (client.untimed.fetch network route).requests := by
  rcases hp : Address.parse route.toList with e | address
  · rw [fetch_eq_of_bad hp, fetch_eq_of_bad hp]
  · obtain ⟨visits, last, left, hm⟩ := client.untimed.exists_meets network address.target
    have hm' : client.untimed.Meets { network with clock } address.target visits last left :=
      hm.transfer rfl rfl rfl fun _ along => along
    rw [fetch_eq hp hm, fetch_eq hp hm']

variable {repository commit required : String}

theorem combinedStatus_eq_untimed_iff :
    client.combinedStatus network repository commit =
        client.untimed.combinedStatus network repository commit ↔
      client.WaitsThrough network
        (client.untimed.combinedStatus network repository commit).requests.length := by
  rw [combinedStatus_eq_fetch, combinedStatus_eq_fetch]
  constructor
  · intro h
    rw [← h]
    exact client.waitsThrough_fetch network _
  · exact fetch_eq_untimed

/-- The gate decides the same about calls that are the same. -/
theorem check_congr {client' : Client}
    (h : client.combinedStatus network repository commit =
      client'.combinedStatus network repository commit) (required : String) :
    client.check network repository commit required =
      client'.check network repository commit required := by
  unfold check
  rw [h]

theorem check_eq_untimed_iff :
    client.check network repository commit required =
        client.untimed.check network repository commit required ↔
      client.WaitsThrough network
        (client.untimed.check network repository commit required).requests.length := by
  constructor
  · intro h
    rw [← h, check_requests, combinedStatus_eq_fetch]
    exact client.waitsThrough_fetch network _
  · intro h
    rw [check_requests] at h
    exact check_congr (combinedStatus_eq_untimed_iff.2 h) required

/-! ### Calls, one after another -/

/-- Whatever a call sends can be waited for if every connection can wait. -/
theorem waitsThrough_of_waits (waits : ∀ budget ≤ 20, client.canWait (network.clock budget) = true)
    (requests : Nat) : client.WaitsThrough network requests :=
  fun i _ => waits _ (Nat.sub_le Exchange.maxRedirects i)

theorem afterErrands_untimed
    (waits : ∀ budget ≤ 20, client.canWait (network.clock budget) = true) (errands : List Errand) :
    client.afterErrands network errands = client.untimed.afterErrands network errands := by
  induction errands generalizing network with
  | nil => rw [afterErrands, afterErrands, List.foldl_nil, List.foldl_nil]
  | cons e errands ih =>
    have hfirst : client.afterErrand network e = client.untimed.afterErrand network e := by
      rw [afterErrand_eq, afterErrand_eq, fetch_eq_untimed (waitsThrough_of_waits waits _)]
    obtain ⟨-, left, isServed, -, hafter, -⟩ := client.exists_afterErrand_eq network e
    have hwaits : ∀ budget ≤ 20,
        client.canWait ((client.afterErrand network e).clock budget) = true := by
      rw [hafter]
      exact waits
    have hrest := ih hwaits
    unfold afterErrands at hrest ⊢
    rw [List.foldl_cons, List.foldl_cons, hrest, hfirst]

end Timeouts

/-- **A timeout is invisible** just if it can be waited for. A client is set up with it as without it.
A connection can wait just if the clock can hold what it reads and the timeout together. If every
connection can wait, the servers are left the same after any calls. One call is the same with the
timeout, in its result, its requests, its log records and what is left, just if the connections for all
requests that it sends without it can wait; and so is one for the gate. -/
theorem timeout_invisible_iff (token : Option Secret) (options : ConnectionOptions)
    (client : Client) (network : Network) (repository commit required : String) :
    build token { options with timeout := none } = (build token options).map untimed ∧
      (∀ clock, client.canWait clock = true ↔
        ∀ n, client.timeout = some n → clock + n < clockBound) ∧
      ((∀ budget ≤ 20, client.canWait (network.clock budget) = true) → ∀ errands,
        client.afterErrands network errands = client.untimed.afterErrands network errands) ∧
      (client.combinedStatus network repository commit =
          client.untimed.combinedStatus network repository commit ↔
        client.WaitsThrough network
          (client.untimed.combinedStatus network repository commit).requests.length) ∧
      (client.check network repository commit required =
          client.untimed.check network repository commit required ↔
        client.WaitsThrough network
          (client.untimed.check network repository commit required).requests.length) := by
  refine ⟨build_untimed token options, fun clock => canWait_iff, ?_, ?_, ?_⟩
  · exact fun waits errands => afterErrands_untimed waits errands
  · exact combinedStatus_eq_untimed_iff
  · exact check_eq_untimed_iff

/-- The longest timeout that can be waited for by a clock that reads 1000 for the first request and
1001 for the next one, in front of a server that sends the client on to another one. -/
theorem timeout_invisible_below_bound :
    let client : Client :=
      { base := { scheme := some .http, authority := "stub".toList, target := { path := [] } }
        token := none
        timeout := some (clockBound - 1 - 1001) }
    let replies : List Http.Reply :=
      [{ status := "302 Found", location := some "http://other/a", body := [] },
        { body := Text.toBytes "\x7b\"statuses\":[]\x7d".toList }]
    let network : Network :=
      { listens := fun _ => true
        replies := replies.map Http.Reply.toBytes
        clock := fun budget => 1020 - budget }
    client.WaitsThrough network 2 ∧ client.canWait 1002 = false ∧
      (client.combinedStatus network "octo/widgets" "abc123").requests.length = 2 ∧
      client.combinedStatus network "octo/widgets" "abc123" =
        client.untimed.combinedStatus network "octo/widgets" "abc123" ∧
      client.check network "octo/widgets" "abc123" "ci/build" =
        client.untimed.check network "octo/widgets" "abc123" "ci/build" := by
  intro client replies network
  have htwo : (client.untimed.combinedStatus network "octo/widgets" "abc123").requests.length =
      2 := by decide +kernel
  have hwaits : client.WaitsThrough network 2 := by
    unfold WaitsThrough
    decide +kernel
  obtain ⟨-, -, -, hcall, hcheck⟩ := timeout_invisible_iff none
    { timeout := some (clockBound - 1 - 1001) } client network "octo/widgets" "abc123" "ci/build"
  rw [htwo] at hcall
  rw [check_requests, htwo] at hcheck
  refine ⟨hwaits, by decide +kernel, ?_, hcall.2 hwaits, hcheck.2 hwaits⟩
  rw [hcall.2 hwaits, htwo]

/-- **The longest timeout that the settings accept** cannot be waited for, whatever the clock reads: a
call that has a combined status without it sends nothing with it. -/
theorem timeout_visible_at_bound :
    let lookup : Lookup := fun v =>
      [(Variable.baseAddress, "http://stub"), (.timeout, "18446744073709551615")].lookup v
    let options : ConnectionOptions :=
      { baseAddress := some "http://stub", timeout := some 18446744073709551615 }
    let client : Client :=
      { base := { scheme := some .http, authority := "stub".toList, target := { path := [] } }
        token := none
        timeout := some 18446744073709551615 }
    let reply : Http.Reply := { body := Text.toBytes "\x7b\"statuses\":[]\x7d".toList }
    let network (clock : Nat → Nat) : Network :=
      { listens := fun _ => true, replies := [reply.toBytes], clock }
    (ConnectionOptions.ask lookup).answer = .ok options ∧ build none options = .ok client ∧
      build none { options with timeout := none } = .ok client.untimed ∧
      ∀ clock,
        (client.untimed.combinedStatus (network clock) "octo/widgets" "abc123").requests.length =
          1 ∧
        (client.combinedStatus (network clock) "octo/widgets" "abc123").requests = [] ∧
        client.combinedStatus (network clock) "octo/widgets" "abc123" ≠
          client.untimed.combinedStatus (network clock) "octo/widgets" "abc123" := by
  intro lookup options client reply network
  refine ⟨rfl, rfl, rfl, fun clock => ?_⟩
  have hbare : (client.untimed.combinedStatus (network clock) "octo/widgets" "abc123").requests.length =
      1 := by
    rw [combinedStatus_eq_fetch, client.fetch_untimed_clock (network fun _ => 0)]
    decide +kernel
  have hcannot (reading : Nat) : client.canWait reading ≠ true := by
    intro hcan
    have hsum : reading + 18446744073709551615 < clockBound := canWait_iff.1 hcan _ rfl
    have hbound : clockBound < 18446744073709551615 := by decide
    omega
  have hsilent : (client.combinedStatus (network clock) "octo/widgets" "abc123").requests = [] := by
    refine Classical.not_not.1 fun hsent => ?_
    rw [combinedStatus_eq_fetch] at hsent
    obtain ⟨-, -, -, -, hwaits, -⟩ := fetch_requests_ne_nil_iff.1 hsent
    exact hcannot _ hwaits
  refine ⟨hbare, hsilent, fun h => ?_⟩
  rw [← h, hsilent] at hbare
  cases hbare

end Client

end CommitGate
