import CommitGate.Proofs.Json.Meaning

/-!
# Values that are kept, as they are written

A text is read as a value just if it is a tree that denotes the value (`ofText_eq_ok_iff`). In a list
or an object the reader of values goes one bracket deeper, so what a tree denotes counts the brackets
around it, and the proofs are by induction on how many there may be.
-/

namespace CommitGate.Json

open Relation (Comp)
open Text (toBytes toBytes_append toBytes_cons toBytes_nil)

/-! ### What trees denote -/

/-- **The tree denotes the value**, with at most `depth` brackets inside each other. Of members with
one key the last counts. -/
def Node.Denotes : (depth : Nat) → Node → Value → Prop
  | _, .null, v => v = .null
  | _, .boolean b, v => v = .boolean b
  | _, .number t, v => ∃ x, v = .number x ∧ Reads readNumber x (toBytes t) []
  | _, .string t, v => ∃ s, v = .string s ∧ TextWritten s.toList t
  | depth + 1, .list ns, v => ∃ vs, v = .list vs ∧ List.Forall₂ (Denotes depth) ns vs
  | depth + 1, .object ms, v => ∃ named kept, v = .object kept ∧ Named ms named ∧
      Leads (fun m kept kept' => ∃ x, kept' = Value.insertMember m.1 x kept ∧ Denotes depth m.2 x)
        named [] kept
  | 0, .list _, _ => False
  | 0, .object _, _ => False

/-! ### Words, numbers and strings -/

theorem reads_readNumber_iff {x : Number} {s rest : Bytes} :
    Reads readNumber x s rest ↔ ∃ n, n.value = .ok x ∧ Spelled n s rest := by
  simp only [← reads_readSpelling_iff, Reads, readNumber]
  rcases readSpelling s with f | r
  · simp [Except.map]
  rcases hx : r.value.value with unread | x'
  · simp only [hx, Except.map, reduceCtorEq, false_iff, Except.ok.injEq, Taken.pair, Prod.mk.injEq]
    rintro ⟨_, hvalue, rfl, -⟩
    cases hx.symm.trans hvalue
  · simp only [hx, Except.map, Except.ok.injEq, Taken.pair, Taken.map, Prod.mk.injEq]
    constructor
    · rintro ⟨rfl, rfl⟩
      exact ⟨_, hx, rfl, rfl⟩
    · rintro ⟨_, hvalue, rfl, rfl⟩
      exact ⟨Except.ok.inj (hx.symm.trans hvalue), rfl⟩

/-- A number is read up to its end. -/
theorem reads_readNumber_append_iff {t : List Char} (h : NumberWritten t) {rest : Bytes}
    (hrest : Ends rest) {x : Number} {rest' : Bytes} :
    Reads readNumber x (toBytes t ++ rest) rest' ↔
      Reads readNumber x (toBytes t) [] ∧ rest' = rest := by
  simp only [reads_readNumber_iff, spelled_append_iff h hrest, ← and_assoc, exists_and_right]

/-- **A word, a number or a string.** -/
inductive Plain : Value → Bytes → Bytes → Prop
  | null {s rest : Bytes} (this : Literal [0x6E, 0x75, 0x6C, 0x6C] s rest) : Plain .null s rest
  | true {s rest : Bytes} (this : Literal [0x74, 0x72, 0x75, 0x65] s rest) :
    Plain (.boolean true) s rest
  | false {s rest : Bytes} (this : Literal [0x66, 0x61, 0x6C, 0x73, 0x65] s rest) :
    Plain (.boolean false) s rest
  | string {text : String} {s rest : Bytes}
    (this : Comp (Literal [0x22]) (Reads readString text) s rest) : Plain (.string text) s rest
  | number {x : Number} {s rest : Bytes} (this : Reads readNumber x s rest) :
    Plain (.number x) s rest

theorem starts_of_readNumber {x : Number} {b : UInt8} {t rest : Bytes}
    (h : Reads readNumber x (b :: t) rest) : b = 0x2D ∨ isDigit b = true := by
  obtain ⟨n, -, hn⟩ := reads_readNumber_iff.1 h
  obtain ⟨t', ht', hbytes⟩ := exists_written_of_spelled hn
  obtain ⟨c, u, hc, hopens⟩ := exists_opens_of_number ht'
  rw [hc] at hbytes
  obtain rfl : b = c := (List.cons.inj hbytes).1
  exact hopens

/-- The first byte tells which of them it is. -/
theorem plain_cons_iff {v : Value} {b : UInt8} {t rest : Bytes} :
    Plain v (b :: t) rest ↔
      if b = 0x6E then v = .null ∧ Literal [0x75, 0x6C, 0x6C] t rest
      else if b = 0x74 then v = .boolean true ∧ Literal [0x72, 0x75, 0x65] t rest
      else if b = 0x66 then v = .boolean false ∧ Literal [0x61, 0x6C, 0x73, 0x65] t rest
      else if b = 0x22 then ∃ text, v = .string text ∧ Reads readString text t rest
      else ∃ x, v = .number x ∧ Reads readNumber x (b :: t) rest := by
  constructor
  · rintro (this | this | this | ⟨u, hquote, this⟩ | this)
    · cases this
      exact ⟨rfl, rfl⟩
    · cases this
      exact ⟨rfl, rfl⟩
    · cases this
      exact ⟨rfl, rfl⟩
    · cases hquote
      exact ⟨_, rfl, this⟩
    · have hne : ∀ c : UInt8, ¬ (c = 0x2D ∨ isDigit c = true) → b ≠ c := fun c hc hbc =>
        hc (hbc ▸ starts_of_readNumber this)
      rw [if_neg (hne _ (by decide)), if_neg (hne _ (by decide)), if_neg (hne _ (by decide)),
        if_neg (hne _ (by decide))]
      exact ⟨_, rfl, this⟩
  · split
    · next hb =>
      rintro ⟨rfl, this⟩
      exact .null (by rw [hb, this]; rfl)
    split
    · next hb =>
      rintro ⟨rfl, this⟩
      exact .true (by rw [hb, this]; rfl)
    split
    · next hb =>
      rintro ⟨rfl, this⟩
      exact .false (by rw [hb, this]; rfl)
    split
    · next hb =>
      rintro ⟨text, rfl, this⟩
      exact .string ⟨t, by rw [hb]; rfl, this⟩
    · rintro ⟨x, rfl, this⟩
      exact .number this

theorem not_plain_nil {v : Value} {rest : Bytes} : ¬ Plain v [] rest := by
  rintro (this | this | this | ⟨u, hquote, -⟩ | this)
  · cases this
  · cases this
  · cases this
  · cases hquote
  · obtain ⟨n, -, hn⟩ := reads_readNumber_iff.1 this
    exact not_reads_of_error rfl (reads_readSpelling_iff.2 hn)

theorem not_plain_cons {v : Value} {b : UInt8} (hb : b = 0x5B ∨ b = 0x7B) {t rest : Bytes} :
    ¬ Plain v (b :: t) rest := by
  rw [plain_cons_iff]
  rcases hb with rfl | rfl
  · rintro ⟨x, -, hx⟩
    exact absurd (starts_of_readNumber hx) (by decide)
  · rintro ⟨x, -, hx⟩
    exact absurd (starts_of_readNumber hx) (by decide)

theorem reads_readPlain_iff {v : Value} {s rest : Bytes} :
    Reads readPlain v s rest ↔ Plain v s rest := by
  rcases s with _ | ⟨b, t⟩
  · simp [Reads, readPlain, not_plain_nil, Except.map]
  rw [plain_cons_iff, Reads, readPlain]
  simp only [← readWord_eq_ok_iff]
  split
  · rcases readWord [0x75, 0x6C, 0x6C] t with f | u <;> simp [Except.map, Taken.pair, eq_comm]
  split
  · rcases readWord [0x72, 0x75, 0x65] t with f | u <;> simp [Except.map, Taken.pair, eq_comm]
  split
  · rcases readWord [0x61, 0x6C, 0x73, 0x65] t with f | u <;>
      simp [Except.map, Taken.pair, eq_comm]
  split
  · unfold Reads
    rcases readString t with f | r <;>
      simp [Except.map, Taken.pair, Taken.map, Taken.lift, eq_comm]
  split
  · unfold Reads
    rcases readNumber (b :: t) with f | r <;>
      simp [Except.map, Taken.pair, Taken.map, eq_comm]
  · next hb =>
    simp only [Bool.or_eq_true, decide_eq_true_eq] at hb
    simp only [Except.map, reduceCtorEq, false_iff, not_exists, not_and]
    rintro x rfl this
    exact hb (starts_of_readNumber this)

/-- What a tree is read as that is no list and no object. -/
theorem plain_iff_of_written {n : Node} {t : List Char} (hn : n.Written t) {rest : Bytes}
    (hrest : Ends rest) {v : Value} {rest' : Bytes} :
    Plain v (toBytes t ++ rest) rest' ↔ n.Denotes 0 v ∧ rest' = rest := by
  cases hn with
  | null =>
    change Plain v (0x6E :: ([0x75, 0x6C, 0x6C] ++ rest)) rest' ↔ _
    simp [plain_cons_iff, Literal, Node.Denotes, eq_comm]
  | true =>
    change Plain v (0x74 :: ([0x72, 0x75, 0x65] ++ rest)) rest' ↔ _
    simp [plain_cons_iff, Literal, Node.Denotes, eq_comm]
  | false =>
    change Plain v (0x66 :: ([0x61, 0x6C, 0x73, 0x65] ++ rest)) rest' ↔ _
    simp [plain_cons_iff, Literal, Node.Denotes, eq_comm]
  | @number t h =>
    obtain ⟨b, u, ht, hb⟩ := exists_opens_of_number h
    have hne : ∀ c : UInt8, ¬ (c = 0x2D ∨ isDigit c = true) → b ≠ c := fun c hc hbc =>
      hc (hbc ▸ hb)
    have hnumber : Plain v (toBytes t ++ rest) rest' ↔
        ∃ x, v = .number x ∧ Reads readNumber x (toBytes t ++ rest) rest' := by
      rw [ht, List.cons_append, plain_cons_iff, if_neg (hne _ (by decide)),
        if_neg (hne _ (by decide)), if_neg (hne _ (by decide)), if_neg (hne _ (by decide))]
    rw [hnumber]
    simp only [reads_readNumber_append_iff h hrest, ← and_assoc, exists_and_right, Node.Denotes]
  | @string t h =>
    have hbytes : toBytes ('\x22' :: t ++ ['\x22']) ++ rest = 0x22 :: (toBytes t ++ 0x22 :: rest) := by
      simp [encode_quote]
    rw [hbytes, plain_cons_iff]
    simp [reads_readString_iff_of_body h, ← and_assoc, exists_and_right, Node.Denotes]
  | list => exact iff_of_false (not_plain_cons (.inl rfl)) fun h => h.1
  | object => exact iff_of_false (not_plain_cons (.inr rfl)) fun h => h.1

/-! ### Lists and objects -/

section Members

variable {σ : Type} {take : String → σ → σ → Bytes → Bytes → Prop} {first : Bool} {st st' : σ}
  {s rest : Bytes}

theorem not_run_of_error {f : Fault} (h : nextKey first s = .error f) :
    ¬ Run .object (KeyedValue take) first st st' s rest := by
  rintro (end_ | ⟨⟨key, u, ⟨v, start, -⟩, -⟩, -⟩)
  · cases h.symm.trans (nextKey_of_mark first end_)
  · obtain ⟨_, hstart, -⟩ := exists_nextKey_of_start start
    cases h.symm.trans hstart

theorem run_iff_of_none (h : nextKey first s = .ok none) :
    Run .object (KeyedValue take) first st st' s rest ↔ st = st' ∧ Mark 0x7D s rest := by
  constructor
  · rintro (end_ | ⟨⟨key, u, ⟨v, start, -⟩, -⟩, -⟩)
    · exact ⟨rfl, end_⟩
    · obtain ⟨_, hstart, -⟩ := exists_nextKey_of_start start
      cases h.symm.trans hstart
  · rintro ⟨rfl, end_⟩
    exact .close end_

theorem run_iff_of_some {key : Taken String s} (h : nextKey first s = .ok (some key)) :
    Run .object (KeyedValue take) first st st' s rest ↔
      ∃ u, Mark 0x3A key.rest u ∧ ∃ st'' v, take key.value st st'' u v ∧
        Run .object (KeyedValue take) false st'' st' v rest := by
  constructor
  · rintro (end_ | ⟨⟨key', u, ⟨v, start, colon⟩, this⟩, others⟩)
    · cases h.symm.trans (nextKey_of_mark first end_)
    · obtain ⟨_, hstart, rfl, rfl⟩ := exists_nextKey_of_start start
      cases h.symm.trans hstart
      exact ⟨_, colon, _, _, this, others⟩
  · rintro ⟨u, colon, st'', v, this, others⟩
    exact .next ⟨_, _, ⟨_, start_of_nextKey h, colon⟩, this⟩ others

end Members

/-- A member that is kept: its value is put among the members before it. -/
def KeepsMember (item : Reader Value) (key : String) (kept kept' : List (String × Value))
    (s rest : Bytes) : Prop :=
  ∃ v, kept' = Value.insertMember key v kept ∧ Reads item v s rest

theorem readMembers_go_iff {item : Reader Value} {s t rest : Bytes} {first : Bool}
    {kept ms : List (String × Value)} {h : t.length ≤ s.length} :
    (readMembers.go item s first kept t h).map Taken.pair = .ok (ms, rest) ↔
      Run .object (KeyedValue (KeepsMember item)) first kept ms t rest := by
  fun_induction readMembers.go item s first kept t h with
  | case1 first kept t h f hnext => simp [not_run_of_error hnext, Except.map]
  | case2 first kept t h hnext f hclose =>
    simp [run_iff_of_none hnext, ← reads_closeObject_iff, not_reads_of_error hclose, Except.map]
  | case3 first kept t h hnext r hclose =>
    simp [run_iff_of_none hnext, ← reads_closeObject_iff, reads_iff_of_ok hclose, Except.map,
      Taken.pair]
  | case4 first kept t h key hnext f hcolon =>
    simp [run_iff_of_some hnext, ← reads_readColon_iff, not_reads_of_error hcolon, Except.map]
  | case5 first kept t h key hnext colon hcolon f hitem =>
    simp only [run_iff_of_some hnext, ← reads_readColon_iff, reads_iff_of_ok hcolon, true_and,
      exists_eq_left', KeepsMember]
    simp [not_reads_of_error hitem, Except.map]
  | case6 first kept t h key hnext colon hcolon r hitem hlt ih =>
    rw [ih]
    simp only [run_iff_of_some hnext, ← reads_readColon_iff, reads_iff_of_ok hcolon, true_and,
      exists_eq_left', KeepsMember, reads_iff_of_ok hitem]
    constructor
    · intro others
      exact ⟨_, _, ⟨_, rfl, rfl, rfl⟩, others⟩
    · rintro ⟨_, _, ⟨_, rfl, rfl, rfl⟩, others⟩
      exact others

theorem reads_readMembers_iff {item : Reader Value} {s rest : Bytes} {ms : List (String × Value)} :
    Reads (readMembers item) ms s rest ↔
      Run .object (KeyedValue (KeepsMember item)) true [] ms s rest := by
  rw [Reads, readMembers, readMembers_go_iff]

/-- A reader of values takes what stands in no bracket, or a list or an object of what is taken one
bracket deeper. -/
theorem reads_readValue_iff {depth : Nat} {v : Value} {s rest : Bytes} :
    Reads (readValue depth) v s rest ↔
      Comp (SkipsTo fun _ => True) (Plain v) s rest ∨
        ∃ inner, depth = inner + 1 ∧
          ((∃ vs, v = .list vs ∧
              Comp (Mark 0x5B) (Items (Reads (readValue inner)) true vs) s rest) ∨
            ∃ ms, v = .object ms ∧ Comp (Mark 0x7B)
              (Run .object (KeyedValue (KeepsMember (readValue inner))) true [] ms) s rest) := by
  rw [Reads, readValue]
  -- what stands behind the blanks decides: nothing, a bracket of a list or an object, or a plain value
  split
  · next h =>
    simp [not_comp_of_not fun _ => not_skipsTo_of_nil h, not_comp_of_not fun _ => not_mark_of_nil h,
      Except.map]
  next b t h =>
  have hitems : ∀ inner vs, Items (Reads (readValue inner)) true vs t rest ↔
      (readItems (readValue inner) t).map Taken.pair = .ok (vs, rest) := fun inner vs =>
    reads_readItems_iff.symm
  have hmembers : ∀ inner ms,
      Run .object (KeyedValue (KeepsMember (readValue inner))) true [] ms t rest ↔
        (readMembers (readValue inner) t).map Taken.pair = .ok (ms, rest) := fun inner ms =>
    reads_readMembers_iff.symm
  simp only [comp_iff_of_iff fun _ => skipsTo_iff_of_cons h, true_and,
    comp_iff_of_iff fun _ => mark_iff_of_cons h, hitems, hmembers]
  split
  · next hb =>
    subst hb
    simp only [not_plain_cons (.inl rfl), false_or]
    rcases depth with _ | depth
    · simp [Except.map]
    · simp only [Nat.add_right_cancel_iff, exists_eq_left']
      rcases readItems (readValue depth) t with f | r <;>
        simp [Except.map, Taken.pair, Taken.map, Taken.lift, eq_comm]
  next hlist =>
  split
  · next hb =>
    subst hb
    simp only [not_plain_cons (.inr rfl), false_or]
    rcases depth with _ | depth
    · simp [Except.map]
    · simp only [Nat.add_right_cancel_iff, exists_eq_left']
      rcases readMembers (readValue depth) t with f | r <;>
        simp [Except.map, Taken.pair, Taken.map, Taken.lift, eq_comm]
  · next hobject =>
    rw [← reads_readPlain_iff, Reads]
    rcases readPlain (b :: t) with f | r
    · simp [hlist, hobject, Except.map]
    · simp [hlist, hobject, Except.map, Taken.pair, Taken.lift]

/-! ### Reading what is written -/

theorem comp_plain_iff_of_written {n : Node} {t : List Char} (hn : n.Written t)
    {before : List Char} (hbefore : Blanks before) {rest : Bytes} (hrest : Ends rest) {v : Value}
    {rest' : Bytes} :
    Comp (SkipsTo fun _ => True) (Plain v) (toBytes before ++ (toBytes t ++ rest)) rest' ↔
      n.Denotes 0 v ∧ rest' = rest := by
  obtain ⟨b, u, ht, -⟩ := hn.exists_opens
  have hfront := hn.skipBlanks hbefore rest
  rw [← plain_iff_of_written hn hrest, ht, List.cons_append] at *
  rw [comp_iff_of_iff fun _ => skipsTo_iff_of_cons hfront, true_and]

/-- A row is read as members that are kept just as the members denote them. -/
theorem run_members_iff_of_row {read : Reader Value} {R : Node → Value → Prop}
    (hread : ReadsAs read R) {ms : List (List Char × Node)} {row : List Char}
    (hrow : Row (MemberWritten Node.Written) ms row) {kept : List (String × Value)}
    {rest rest' : Bytes} :
    Run .object (KeyedValue (KeepsMember read)) true [] kept (toBytes row ++ 0x7D :: rest) rest' ↔
      (∃ named, Named ms named ∧
        Leads (fun m kept kept' => ∃ x, kept' = Value.insertMember m.1 x kept ∧ R m.2 x) named []
          kept) ∧ rest' = rest := by
  have htake : ∀ {key : String} {n : Node} {t}, n.Written t → ∀ {before}, Blanks before →
      ∀ {rest}, Ends rest → ∀ {kept kept' u},
        KeepsMember read key kept kept' (toBytes before ++ (toBytes t ++ rest)) u ↔
          (∃ x, kept' = Value.insertMember key x kept ∧ R n x) ∧ u = rest := by
    intro key n t hn before hbefore rest hrest kept kept' u
    simp only [KeepsMember, hread hn hbefore hrest, ← and_assoc, exists_and_right]
  rw [← leads_named_iff fun key n kept kept' => ∃ x, kept' = Value.insertMember key x kept ∧ R n x]
  exact run_iff_of_row (partLaw_keyedValue htake) hrow

/-- **What is written is read as the value that it denotes.** -/
theorem readsAs_readValue (depth : Nat) :
    ReadsAs (readValue depth) fun n v => n.Denotes depth v := by
  -- not on the tree: the elements of a row are read with the depth that is left, whatever they are
  induction depth with
  | zero =>
    intro n t hn before hbefore rest hrest v rest'
    rw [reads_readValue_iff, comp_plain_iff_of_written hn hbefore hrest]
    simp
  | succ depth ih =>
    intro n t hn before hbefore rest hrest v rest'
    rw [reads_readValue_iff, comp_plain_iff_of_written hn hbefore hrest]
    simp only [Nat.add_right_cancel_iff, exists_eq_left', comp_mark_list_iff hn hbefore,
      comp_mark_object_iff hn hbefore]
    cases n with
    | null => simp [Node.Denotes]
    | boolean b => simp [Node.Denotes]
    | number t => simp [Node.Denotes]
    | string t => simp [Node.Denotes]
    | list ns =>
      cases hn with
      | @list _ row hrow =>
      simp only [Node.Denotes, false_and, false_or, reduceCtorEq, exists_false, and_false, or_false]
      constructor
      · rintro ⟨vs, rfl, items, row, hitems, hrow, -, hread⟩
        obtain rfl := Node.list.inj hitems
        obtain ⟨hvs, hrest'⟩ := (items_iff_of_row ih hrow).1 hread
        exact ⟨⟨vs, rfl, hvs⟩, hrest'⟩
      · rintro ⟨⟨vs, rfl, hvs⟩, hrest'⟩
        exact ⟨vs, rfl, ns, row, rfl, hrow, rfl, (items_iff_of_row ih hrow).2 ⟨hvs, hrest'⟩⟩
    | object ms =>
      cases hn with
      | @object _ row hrow =>
      simp only [Node.Denotes, false_and, false_or, reduceCtorEq, exists_false, and_false]
      constructor
      · rintro ⟨kept, rfl, members, row, hmembers, hrow, -, hread⟩
        obtain rfl := Node.object.inj hmembers
        obtain ⟨⟨named, hnamed, hleads⟩, hrest'⟩ := (run_members_iff_of_row ih hrow).1 hread
        exact ⟨⟨named, kept, rfl, hnamed, hleads⟩, hrest'⟩
      · rintro ⟨⟨named, kept, rfl, hnamed, hleads⟩, hrest'⟩
        exact ⟨kept, rfl, ms, row, rfl, hrow, rfl,
          (run_members_iff_of_row ih hrow).2 ⟨⟨named, hnamed, hleads⟩, hrest'⟩⟩

/-! ### What is read is written -/

theorem exists_blanks_of_skipsTo {p : UInt8 → Prop} {s u : Bytes} (h : SkipsTo p s u) :
    ∃ blanks, Blanks blanks ∧ s = toBytes blanks ++ u := by
  obtain ⟨b, t, hs, -, rfl⟩ := h
  exact exists_blanks_of_mark hs

theorem exists_written_of_plain {v : Value} {s rest : Bytes} (h : Plain v s rest) :
    ∃ (n : Node) (t : List Char), n.Written t ∧ s = toBytes t ++ rest := by
  cases h with
  | null this => exact ⟨.null, _, .null, this⟩
  | true this => exact ⟨.boolean true, _, .true, this⟩
  | false this => exact ⟨.boolean false, _, .false, this⟩
  | string this =>
    obtain ⟨u, hquote, hread⟩ := this
    obtain ⟨t, ht, rfl⟩ := reads_readString_iff_written.1 hread
    refine ⟨.string t, _, .string (stringBody_of_textWritten ht), ?_⟩
    rw [hquote]
    simp [encode_quote]
  | number this =>
    obtain ⟨n, -, hn⟩ := reads_readNumber_iff.1 this
    obtain ⟨t, ht, rfl⟩ := exists_written_of_spelled hn
    exact ⟨.number t, t, .number ht, rfl⟩

/-- What the reader takes is blanks and something that is written. -/
def TakesWritten (read : Reader Value) : Prop :=
  ∀ {v s rest}, Reads read v s rest → ∃ (n : Node) (before t : List Char),
    s = toBytes before ++ (toBytes t ++ rest) ∧ Blanks before ∧ n.Written t

theorem exists_row_of_items {read : Reader Value} (hread : TakesWritten read) {vs : List Value}
    {s rest : Bytes} (h : Items (Reads read) true vs s rest) :
    ∃ ns row, Row Node.Written ns row ∧ s = toBytes row ++ 0x5D :: rest := by
  refine exists_row_of_run ?_ (items_iff_run.1 h)
  rintro first l l' s u ⟨m, ⟨w, hsep, hskip⟩, a, -, hthis⟩
  obtain ⟨blanks, hblanks, rfl⟩ := exists_blanks_of_skipsTo hskip
  obtain ⟨n, before, t, rfl, hbefore, hn⟩ := hread hthis
  refine ⟨n, blanks ++ before, t, ?_, List.forall_mem_append.2 ⟨hblanks, hbefore⟩, hn⟩
  rwa [toBytes_append, List.append_assoc]

theorem exists_row_of_members {read : Reader Value} (hread : TakesWritten read)
    {kept : List (String × Value)} {s rest : Bytes}
    (h : Run .object (KeyedValue (KeepsMember read)) true [] kept s rest) :
    ∃ ms row, Row (MemberWritten Node.Written) ms row ∧ s = toBytes row ++ 0x7D :: rest := by
  refine exists_row_of_run ?_ h
  rintro first kept kept' s u ⟨key, v, ⟨x, ⟨w, hsep, y, hquote, hkey⟩, hcolon⟩, a, -, hthis⟩
  obtain ⟨before, hbefore, rfl⟩ := exists_blanks_of_mark hquote
  obtain ⟨body, hbody, rfl⟩ := reads_readString_iff_written.1 hkey
  obtain ⟨behind, hbehind, rfl⟩ := exists_blanks_of_mark hcolon
  obtain ⟨n, after, t, rfl, hafter, hn⟩ := hread hthis
  refine ⟨(body, n), before, _, ?_, hbefore,
    .mk (stringBody_of_textWritten hbody) hbehind hafter hn⟩
  simpa [encode_quote, encode_colon] using hsep

theorem takesWritten_readValue (depth : Nat) : TakesWritten (readValue depth) := by
  induction depth with
  | zero =>
    intro v s rest h
    obtain ⟨m, hskip, hplain⟩ | ⟨inner, hdepth, -⟩ := reads_readValue_iff.1 h
    · obtain ⟨before, hbefore, rfl⟩ := exists_blanks_of_skipsTo hskip
      obtain ⟨n, t, hn, rfl⟩ := exists_written_of_plain hplain
      exact ⟨n, before, t, rfl, hbefore, hn⟩
    · cases hdepth
  | succ depth ih =>
    intro v s rest h
    rw [reads_readValue_iff] at h
    simp only [Nat.add_right_cancel_iff, exists_eq_left'] at h
    obtain ⟨m, hskip, hplain⟩ | ⟨vs, -, m, hmark, hitems⟩ | ⟨kept, -, m, hmark, hrun⟩ := h
    · obtain ⟨before, hbefore, rfl⟩ := exists_blanks_of_skipsTo hskip
      obtain ⟨n, t, hn, rfl⟩ := exists_written_of_plain hplain
      exact ⟨n, before, t, rfl, hbefore, hn⟩
    · obtain ⟨before, hbefore, rfl⟩ := exists_blanks_of_mark hmark
      obtain ⟨ns, row, hrow, rfl⟩ := exists_row_of_items ih hitems
      refine ⟨.list ns, before, _, ?_, hbefore, .list hrow⟩
      rw [toBytes_list]
    · obtain ⟨before, hbefore, rfl⟩ := exists_blanks_of_mark hmark
      obtain ⟨ms, row, hrow, rfl⟩ := exists_row_of_members ih hrun
      refine ⟨.object ms, before, _, ?_, hbefore, .object hrow⟩
      rw [toBytes_object]

/-! ### Whole texts -/

/-- A text that is one tree is read as the value that the tree denotes. -/
theorem ofText_eq_ok_iff_denotes {n : Node} {text : List Char} (hdoc : Document n text) {v : Value} :
    Value.ofText (toBytes text) = .ok v ↔ n.Denotes maxDepth v :=
  decode_eq_ok_iff_of_readsAs (readsAs_readValue maxDepth) hdoc

/-- **A text is read as a value just if it is a tree that denotes the value.** -/
theorem ofText_eq_ok_iff {s : Bytes} {v : Value} :
    Value.ofText s = .ok v ↔
      ∃ n text, s = toBytes text ∧ Document n text ∧ n.Denotes maxDepth v := by
  constructor
  · intro h
    obtain ⟨rest, hread, hrest⟩ := Decoder.decode_eq_ok_iff_reads.1 h
    obtain ⟨n, before, t, rfl, hbefore, hn⟩ := takesWritten_readValue maxDepth hread
    obtain ⟨behind, hbehind, rfl⟩ :=
      exists_blanks_of_isBlankByte (Decoder.skipBlanks_eq_nil_iff.1 hrest)
    have hdoc : Document n (before ++ t ++ behind) :=
      ⟨before, t, behind, rfl, hbefore, hn, hbehind⟩
    have hs : toBytes before ++ (toBytes t ++ toBytes behind) = toBytes (before ++ t ++ behind) := by
      simp
    rw [hs] at h ⊢
    exact ⟨n, _, rfl, hdoc, (ofText_eq_ok_iff_denotes hdoc).1 h⟩
  · rintro ⟨n, text, rfl, hdoc, hdenotes⟩
    exact (ofText_eq_ok_iff_denotes hdoc).2 hdenotes

end CommitGate.Json
