import CommitGate.Proofs.Json.Written.Values

/-!
# A tree and the value that it denotes

If no object in a tree repeats a key, the tree and the value that it denotes look the same as JSON:
each simulates the other (`View.Simulates`). The value has lost the order of the members and how
strings and numbers are spelled; none of that can be seen.
-/

namespace CommitGate.Json

open Text (toBytes)

/-- **What is related looks the same in the second view as in the first**, and so do the elements of
lists and the values of members. -/
structure View.Simulates {τ υ : Type} (V : View τ) (W : View υ) (rel : τ → υ → Prop) : Prop where
  isNull : ∀ {x y}, rel x y → V.isNull x → W.isNull y
  text : ∀ {x y s}, rel x y → V.text x s → W.text y s
  items : ∀ {x y xs}, rel x y → V.items x xs → ∃ ys, W.items y ys ∧ List.Forall₂ rel xs ys
  members : ∀ {x y ms}, rel x y → V.members x ms →
    ∃ ms', W.members y ms' ∧ ∀ key, List.Forall₂ rel (valuesAt key ms) (valuesAt key ms')

/-! ### Lists that are related -/

section Related

variable {τ υ β : Type} {rel : τ → υ → Prop} {xs : List τ} {ys : List υ}

/-- At one position both lists have related elements, or none. -/
theorem forall₂_getElem? (hrel : List.Forall₂ rel xs ys) (i : Nat) :
    List.Forall₂ rel xs[i]?.toList ys[i]?.toList := by
  induction hrel generalizing i with
  | nil => exact .nil
  | cons hxy _ ih =>
    cases i with
    | zero => exact .cons hxy .nil
    | succ i => exact ih i

theorem exists_related_of_mem (hrel : List.Forall₂ rel xs ys) : ∀ x ∈ xs, ∃ y ∈ ys, rel x y := by
  induction hrel with
  | nil => exact List.forall_mem_nil _
  | cons hxy _ ih =>
    refine List.forall_mem_cons.2 ⟨⟨_, List.mem_cons_self, hxy⟩, fun x hx => ?_⟩
    obtain ⟨y, hy, hxy⟩ := ih x hx
    exact ⟨y, List.mem_cons_of_mem _ hy, hxy⟩

theorem orDefault_of_forall₂ {P : τ → β → Prop} {Q : υ → β → Prop} {default : β}
    (htaken : ∀ x y b, rel x y → P x b → Q y b) (hrel : List.Forall₂ rel xs ys) {b : β}
    (h : OrDefault P default xs b) : OrDefault Q default ys b := by
  obtain ⟨rfl, rfl⟩ | ⟨x, rfl, hx⟩ := h
  · exact .inl ⟨List.forall₂_nil_left_iff.1 hrel, rfl⟩
  · obtain ⟨y, ys, hxy, hys, rfl⟩ := List.forall₂_cons_left_iff.1 hrel
    obtain rfl := List.forall₂_nil_left_iff.1 hys
    exact .inr ⟨y, rfl, htaken _ _ _ hxy hx⟩

/-- What the elements of a list are taken for, the related elements are taken for. -/
theorem forall₂_of_forall₂ {P : τ → β → Prop} {Q : υ → β → Prop}
    (htaken : ∀ x y b, rel x y → P x b → Q y b) (hrel : List.Forall₂ rel xs ys) {bs : List β}
    (h : List.Forall₂ P xs bs) : List.Forall₂ Q ys bs := by
  induction hrel generalizing bs with
  | nil => rwa [List.forall₂_nil_left_iff] at h ⊢
  | cons hxy _ ih =>
    obtain ⟨b, others, hb, hothers, rfl⟩ := List.forall₂_cons_left_iff.1 h
    exact .cons (htaken _ _ _ hxy hb) (ih hothers)

end Related

/-! ### Members that are kept -/

section Members

variable {τ : Type} {ms : List (String × τ)}

theorem valuesAt_append {ms' : List (String × τ)} (key : String) :
    valuesAt key (ms ++ ms') = valuesAt key ms ++ valuesAt key ms' := by
  simp [valuesAt]

theorem valuesAt_eq_nil {key : String} (h : ∀ m ∈ ms, m.1 ≠ key) : valuesAt key ms = [] := by
  simpa [valuesAt] using h

theorem mem_of_mem_valuesAt {key : String} {x : τ} (h : x ∈ valuesAt key ms) : (key, x) ∈ ms := by
  simp only [valuesAt, List.mem_map, List.mem_filter, beq_iff_eq] at h
  obtain ⟨m, ⟨hm, rfl⟩, rfl⟩ := h
  exact hm

theorem mem_insertMember {key : String} {x : Value} {kept : List (String × Value)}
    {m : String × Value} (h : m ∈ Value.insertMember key x kept) : m = (key, x) ∨ m ∈ kept := by
  induction kept with
  | nil => exact .inl (List.mem_singleton.1 h)
  | cons m' kept ih =>
    rw [Value.insertMember] at h
    split at h
    · exact (List.mem_cons.1 h).imp_right (List.mem_cons_of_mem _)
    split at h
    · exact List.mem_cons.1 h
    · rcases List.mem_cons.1 h with rfl | h
      · exact .inr List.mem_cons_self
      · exact (ih h).imp_right (List.mem_cons_of_mem _)

/-- A member with a new key takes no other member's place. -/
theorem valuesAt_insertMember {key : String} {x : Value} {kept : List (String × Value)}
    (hfresh : ∀ m ∈ kept, m.1 ≠ key) (key' : String) :
    valuesAt key' (Value.insertMember key x kept) =
      valuesAt key' kept ++ valuesAt key' [(key, x)] := by
  induction kept with
  | nil => rfl
  | cons m kept ih =>
    rw [Value.insertMember]
    split
    · next heq => exact absurd heq.symm (hfresh m List.mem_cons_self)
    split
    · by_cases hkey : key = key'
      · subst hkey
        rw [valuesAt_eq_nil hfresh, valuesAt_cons_self, valuesAt_eq_nil hfresh]
        simp [valuesAt]
      · rw [valuesAt_cons_of_ne hkey, valuesAt_cons_of_ne hkey]
        simp
    · have hsplit : ∀ l : List (String × Value), m :: l = [m] ++ l := fun _ => rfl
      rw [List.forall_mem_cons] at hfresh
      rw [hsplit, valuesAt_append, ih hfresh.2, hsplit kept, valuesAt_append, List.append_assoc]

/-- Members of different keys are kept with the values that they have. -/
theorem forall₂_valuesAt_of_leads {R : Node → Value → Prop} {named : List (String × Node)}
    {kept kept' : List (String × Value)}
    (h : Leads (fun m kept kept' => ∃ x, kept' = Value.insertMember m.1 x kept ∧ R m.2 x) named kept
      kept')
    (hdistinct : named.Pairwise fun m m' => m.1 ≠ m'.1)
    (hfresh : ∀ m ∈ named, ∀ k ∈ kept, k.1 ≠ m.1) (key : String) :
    ∃ vs, valuesAt key kept' = valuesAt key kept ++ vs ∧
      List.Forall₂ R (valuesAt key named) vs := by
  -- `hfresh` is kept because the keys still to come differ from the one that is put in
  induction h with
  | nil kept => exact ⟨[], (List.append_nil _).symm, .nil⟩
  | @cons m named kept _ _ this _ ih =>
    obtain ⟨x, rfl, hx⟩ := this
    rw [List.pairwise_cons] at hdistinct
    rw [List.forall_mem_cons] at hfresh
    obtain ⟨vs, hvs, hall⟩ := ih hdistinct.2 fun m' hm' k hk => by
      rcases mem_insertMember hk with rfl | hk
      · exact hdistinct.1 m' hm'
      · exact hfresh.2 m' hm' k hk
    rw [valuesAt_insertMember hfresh.1, List.append_assoc] at hvs
    refine ⟨_, hvs, ?_⟩
    obtain ⟨key', n⟩ := m
    by_cases hkey : key' = key
    · subst hkey
      rw [valuesAt_cons_self, valuesAt_cons_self]
      exact .cons hx hall
    · rw [valuesAt_cons_of_ne hkey, valuesAt_cons_of_ne hkey]
      exact hall

end Members

/-! ### Names of members -/

theorem named_unique {ms : List (List Char × Node)} {named named' : List (String × Node)}
    (h : Named ms named) (h' : Named ms named') : named = named' := by
  induction h generalizing named' with
  | nil => exact (List.forall₂_nil_left_iff.1 h').symm
  | @cons m k ms named hthis _ ih =>
    obtain ⟨k', others, hthis', hothers, rfl⟩ := List.forall₂_cons_left_iff.1 h'
    have hkey := String.toList_inj.1 (textWritten_unique hthis.1 hthis'.1)
    rw [ih hothers, Prod.ext hkey (hthis.2.symm.trans hthis'.2)]

/-- **No two keys stand for one text just if no two names are the same.** -/
theorem pairwise_named_iff {ms : List (List Char × Node)} {named : List (String × Node)}
    (h : Named ms named) :
    (ms.Pairwise fun m m' => ∀ s, TextWritten s m.1 → ¬ TextWritten s m'.1) ↔
      named.Pairwise fun k k' => k.1 ≠ k'.1 := by
  induction h with
  | nil => exact ⟨fun _ => .nil, fun _ => .nil⟩
  | cons hthis hothers ih =>
    rw [List.pairwise_cons, List.pairwise_cons, ih]
    refine and_congr_left fun _ => ⟨fun hms k' hk' heq => ?_, fun hks m' hm' s hs hs' => ?_⟩
    · obtain ⟨m', hm', hwritten, -⟩ := exists_related_of_mem hothers.flip k' hk'
      rw [← heq] at hwritten
      exact hms m' hm' _ hthis.1 hwritten
    · obtain ⟨k', hk', hwritten, -⟩ := exists_related_of_mem hothers m' hm'
      refine hks k' hk' (String.toList_inj.1 ?_)
      exact (textWritten_unique hthis.1 hs).trans (textWritten_unique hs' hwritten)

/-! ### Trees and values -/

theorem denotes_string_iff {depth : Nat} {t : List Char} {v : Value} :
    (Node.string t).Denotes depth v ↔ ∃ s, v = .string s ∧ TextWritten s.toList t := by
  simp only [Node.Denotes]

theorem denotes_list_iff {depth : Nat} {ns : List Node} {v : Value} :
    (Node.list ns).Denotes depth v ↔
      ∃ inner, depth = inner + 1 ∧ ∃ vs, v = .list vs ∧ List.Forall₂ (Node.Denotes inner) ns vs := by
  cases depth <;> simp [Node.Denotes]

theorem denotes_object_iff {depth : Nat} {ms : List (List Char × Node)} {v : Value} :
    (Node.object ms).Denotes depth v ↔
      ∃ inner, depth = inner + 1 ∧ ∃ named kept, v = .object kept ∧ Named ms named ∧
        Leads (fun m kept kept' => ∃ x, kept' = Value.insertMember m.1 x kept ∧
          Node.Denotes inner m.2 x) named [] kept := by
  cases depth <;> simp [Node.Denotes]

/-- The tree denotes the value and repeats no key. -/
def Node.Gives (n : Node) (v : Value) : Prop := n.KeysDistinct ∧ ∃ depth, n.Denotes depth v

theorem forall₂_gives {depth : Nat} {ns : List Node} {vs : List Value}
    (hdistinct : ∀ n ∈ ns, n.KeysDistinct) (h : List.Forall₂ (Node.Denotes depth) ns vs) :
    List.Forall₂ Node.Gives ns vs :=
  (List.forall₂_and_left _ _).2 ⟨hdistinct, h.imp fun _ _ h => ⟨depth, h⟩⟩

theorem forall₂_gives_of_members {ms : List (List Char × Node)} {named : List (String × Node)}
    {kept : List (String × Value)} {depth : Nat} (hdistinct : (Node.object ms).KeysDistinct)
    (hnamed : Named ms named)
    (h : Leads (fun m kept kept' => ∃ x, kept' = Value.insertMember m.1 x kept ∧
      Node.Denotes depth m.2 x) named [] kept) (key : String) :
    List.Forall₂ Node.Gives (valuesAt key named) (valuesAt key kept) := by
  cases hdistinct with
  | object hkeys hvalues =>
    obtain ⟨vs, hvs, hall⟩ := forall₂_valuesAt_of_leads h ((pairwise_named_iff hnamed).1 hkeys)
      (fun _ _ => List.forall_mem_nil _) key
    rw [valuesAt_nil, List.nil_append] at hvs
    rw [hvs]
    refine forall₂_gives (fun n hn => ?_) hall
    obtain ⟨m, hm, -, rfl⟩ := exists_related_of_mem hnamed.flip _ (mem_of_mem_valuesAt hn)
    exact hvalues m hm

/-- **The value looks like the tree.** -/
theorem simulates_gives : Node.view.Simulates Value.view Node.Gives where
  isNull := by
    rintro _ v ⟨-, depth, h⟩ rfl
    simpa [Node.Denotes] using h
  text := by
    rintro _ v s ⟨-, depth, h⟩ ⟨t, rfl, hs⟩
    obtain ⟨s', rfl, hs'⟩ := denotes_string_iff.1 h
    rw [text_value_iff, String.toList_inj.1 (textWritten_unique hs' hs)]
  items := by
    rintro _ v ns ⟨hdistinct, depth, h⟩ rfl
    obtain ⟨inner, -, vs, rfl, hall⟩ := denotes_list_iff.1 h
    cases hdistinct with
    | list hns => exact ⟨vs, rfl, forall₂_gives hns hall⟩
  members := by
    rintro _ v named ⟨hdistinct, depth, h⟩ ⟨ms, rfl, hnamed⟩
    obtain ⟨inner, -, named', kept, rfl, hnamed', hleads⟩ := denotes_object_iff.1 h
    obtain rfl := named_unique hnamed hnamed'
    exact ⟨kept, rfl, forall₂_gives_of_members hdistinct hnamed hleads⟩

/-- **The tree looks like the value.** -/
theorem simulates_flip_gives : Value.view.Simulates Node.view (flip Node.Gives) where
  isNull := by
    rintro _ n ⟨-, depth, h⟩ rfl
    cases n <;> simp [Node.Denotes, denotes_list_iff, denotes_object_iff] at h ⊢
  text := by
    rintro _ n s ⟨-, depth, h⟩ rfl
    cases n <;> simp [Node.Denotes, denotes_list_iff, denotes_object_iff] at h ⊢
    exact h
  items := by
    rintro _ n vs ⟨hdistinct, depth, h⟩ rfl
    cases hdistinct with
    | list hns =>
      obtain ⟨inner, -, vs', heq, hall⟩ := denotes_list_iff.1 h
      obtain rfl := Value.list.inj heq
      exact ⟨_, rfl, (forall₂_gives hns hall).flip⟩
    | object => simp [denotes_object_iff] at h
    | _ => simp [Node.Denotes] at h
  members := by
    rintro _ n kept ⟨hdistinct, depth, h⟩ rfl
    cases n with
    | object ms =>
      obtain ⟨inner, -, named, kept', heq, hnamed, hleads⟩ := denotes_object_iff.1 h
      obtain rfl := Value.object.inj heq
      exact ⟨named, ⟨ms, rfl, hnamed⟩,
        fun key => (forall₂_gives_of_members hdistinct hnamed hleads key).flip⟩
    | list => simp [denotes_list_iff] at h
    | _ => simp [Node.Denotes] at h

end CommitGate.Json
