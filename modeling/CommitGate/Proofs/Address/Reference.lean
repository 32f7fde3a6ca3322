import CommitGate.Address.Reference
import CommitGate.Proofs.Address.Origin

/-!
# Where references lead

A reference is brought into normal form before it is followed (`WebAddress.IsNormal`): its user
information and its host consist of visible characters of ASCII without the marks that end a server,
and its path has at least one segment. Of the names that have to be looked up this needs that their
forms are in ASCII, and nothing else. Each way to follow a reference keeps to that
(`WebAddress.isNormal_of_resolve`). So the address that it leads to has a server, and a path that
starts with a slash, whatever the reference says (`Address.isSound_of_follow?`).
-/

namespace CommitGate

/-- The character can stand in a server: it is a visible one of ASCII, and does not end a server. -/
def IsServerChar (c : Char) : Prop := IsVisibleAscii c ∧ endsAuthority c = false

instance : DecidablePred IsServerChar := fun c =>
  inferInstanceAs (Decidable ((0x21 ≤ c.toNat ∧ c.toNat < 0x7F) ∧ endsAuthority c = false))

theorem isServerChar_digit_code : ∀ n < 0x80, (Char.ofNat n).isDigit = true →
    IsServerChar (Char.ofNat n) := by
  decide +kernel

theorem isServerChar_of_isDigit {c : Char} (h : c.isDigit = true) : IsServerChar c := by
  have hlt : c.toNat < 0x80 := lt_of_isAlphanum (by simp [Char.isAlphanum, h])
  have hcode := isServerChar_digit_code c.toNat hlt
  rw [Char.ofNat_toNat] at hcode
  exact hcode h

/-- **The text can stand in a server.** -/
def IsServerText (s : List Char) : Prop := ∀ c ∈ s, IsServerChar c

namespace IsServerText

variable {s t : List Char} {c : Char}

theorem nil : IsServerText [] := List.forall_mem_nil _

theorem cons (hc : IsServerChar c) (hs : IsServerText s) : IsServerText (c :: s) :=
  List.forall_mem_cons.2 ⟨hc, hs⟩

theorem append (hs : IsServerText s) (ht : IsServerText t) : IsServerText (s ++ t) :=
  List.forall_mem_append.2 ⟨hs, ht⟩

theorem intercalate {parts : List (List Char)} (hparts : ∀ part ∈ parts, IsServerText part) :
    IsServerText ([':'].intercalate parts) := by
  induction parts with
  | nil => exact nil
  | cons part parts ih =>
    obtain ⟨hpart, hrest⟩ := List.forall_mem_cons.1 hparts
    rcases parts with _ | ⟨next, parts⟩
    · simpa [List.intercalate] using hpart
    · have hcons : [':'].intercalate (part :: next :: parts) =
          part ++ ':' :: [':'].intercalate (next :: parts) := by
        simp [List.intercalate]
      rw [hcons]
      exact hpart.append (cons (by decide) (ih hrest))

theorem toString_nat (n : Nat) : IsServerText (toString n).toList := by
  intro c hc
  rw [Nat.toString_eq_ofList_toDigits, String.toList_ofList] at hc
  exact isServerChar_of_isDigit (Nat.isDigit_of_mem_toDigits (by omega) (by omega) hc)

theorem hexDigit : ∀ n < 16, IsServerChar (Text.hexDigit n) := by decide

theorem hexDigit_toUpper : ∀ n < 16, IsServerChar (Text.hexDigit n).toUpper := by decide

theorem hexNumeral (n : Nat) : IsServerText (Text.hexNumeral n) := by
  fun_induction Text.hexNumeral n with
  | case1 n h => exact cons (hexDigit n h) nil
  | case2 n h ih => exact ih.append (cons (hexDigit _ (Nat.mod_lt n (by omega))) nil)

end IsServerText

/-! ### Hosts -/

namespace Host

theorem isServerText_fourBytesText (n : Nat) : IsServerText (fourBytesText n) := by
  have hdot : IsServerChar '.' := by decide
  have hbyte (i : Nat) : IsServerText (toString (n / Nat.pow 256 i % 256)).toList :=
    .toString_nat _
  have htwo := (hbyte 3).append (.cons hdot (hbyte 2))
  exact (htwo.append (.cons hdot (hbyte 1))).append (.cons hdot (hbyte 0))

theorem isServerText_groupsText (groups : List Nat) : IsServerText (groupsText groups) := by
  refine .intercalate fun part hpart => ?_
  obtain ⟨n, -, rfl⟩ := List.mem_map.1 hpart
  exact .hexNumeral n

theorem isServerText_sixteenBytesText (groups : List Nat) :
    IsServerText (sixteenBytesText groups) := by
  have hclose : IsServerText [']'] := .cons (by decide) .nil
  have hgap : IsServerText [':', ':'] := .cons (by decide) (.cons (by decide) .nil)
  refine .cons (by decide) (.append ?_ hclose)
  split
  · exact isServerText_groupsText groups
  · exact ((isServerText_groupsText _).append hgap).append (isServerText_groupsText _)

variable {names : Names} {s name host : List Char}

theorem toLower_lt_code : ∀ n < 0x80, (Char.ofNat n).toLower.toNat < 0x80 := by decide +kernel

/-- The form of a name is in ASCII, whether it is looked up or not. -/
theorem Names.isAscii_of_form? (h : names.form? s = some name) : ∀ c ∈ name, c.toNat < 0x80 := by
  unfold Names.form? at h
  split at h
  · exact names.isAscii s name h
  next hplain =>
  cases h
  intro c hc
  obtain ⟨c', hc', rfl⟩ := List.mem_map.1 hc
  simp only [isLookedUp, Bool.or_eq_true, not_or, Bool.not_eq_true, List.any_eq_false,
    decide_eq_true_eq, Nat.not_le] at hplain
  have hcode := toLower_lt_code c'.toNat (hplain.1 c' hc')
  rwa [Char.ofNat_toNat] at hcode

theorem isServerChar_of_allowed {c : Char} (hascii : c.toNat < 0x80) (h : isForbidden c = false) :
    IsServerChar c := by
  refine ⟨?_, ?_⟩
  · simp only [isForbidden, Bool.or_eq_false_iff, decide_eq_false_iff_not, beq_eq_false_iff_ne] at h
    obtain ⟨⟨hlow, hdelete⟩, -⟩ := h
    exact ⟨by omega, by omega⟩
  · have hallowed : (!isForbidden c) = true := by simp [h]
    exact endsAuthority_eq_false (p := fun c => !isForbidden c) hallowed (by decide) (by decide)
      (by decide)

/-- A host in normal form can stand in a server. -/
theorem isServerText_of_normalize? (h : normalize? names s = some host) : IsServerText host := by
  unfold normalize? at h
  split at h
  · cases h
  · split at h
    · obtain ⟨groups, -, rfl⟩ := Option.map_eq_some_iff.1 h
      exact isServerText_sixteenBytesText groups
    · cases h
  · split at h
    · cases h
    next name hname =>
    split at h
    · cases h
    next hallowed =>
    split at h
    · obtain ⟨n, -, rfl⟩ := Option.map_eq_some_iff.1 h
      exact isServerText_fourBytesText n
    · cases h
      obtain ⟨text, -, hform⟩ := Option.bind_eq_some_iff.1 hname
      simp only [Bool.or_eq_true, not_or, Bool.not_eq_true, List.any_eq_false] at hallowed
      intro c hc
      exact isServerChar_of_allowed (Names.isAscii_of_form? hform c hc) (hallowed.2 c hc)

end Host

/-! ### Percent signs -/

theorem isServerText_percentByte (b : UInt8) : IsServerText (percentByte b) := by
  have hhigh : b.toNat / 16 < 16 := by
    have hlt := b.toNat_lt
    omega
  have hlow : b.toNat % 16 < 16 := Nat.mod_lt _ (by omega)
  exact .cons (by decide) (.cons (IsServerText.hexDigit_toUpper _ hhigh)
    (.cons (IsServerText.hexDigit_toUpper _ hlow) .nil))

/-- What is left of a text can stand in a server if all that could not is encoded. -/
theorem isServerText_percentEncode {p : Char → Bool}
    (hp : ∀ c, ¬ IsServerChar c → p c = true) (s : List Char) :
    IsServerText (percentEncode p s) := by
  intro c hc
  obtain ⟨c', -, hc⟩ := List.mem_flatMap.1 hc
  by_cases hencoded : p c' = true
  · rw [if_pos hencoded] at hc
    obtain ⟨b, -, hb⟩ := List.mem_flatMap.1 hc
    exact isServerText_percentByte b c hb
  · rw [if_neg hencoded, List.mem_singleton] at hc
    rw [hc]
    exact Classical.not_not.1 fun hother => hencoded (hp c' hother)

/-- What cannot stand in a server is encoded in user information. -/
theorem isEncodedInUserInfo_of_not_isServerChar {c : Char} (h : ¬ IsServerChar c) :
    isEncodedInUserInfo c = true := by
  by_cases hvisible : IsVisibleAscii c
  · have hends : endsAuthority c = true := by simpa [IsServerChar, hvisible] using h
    rcases endsAuthority_iff.1 hends with rfl | rfl | rfl <;> decide
  · by_cases hspace : c = ' '
    · rw [hspace]
      decide
    have hcode : c.toNat ≠ 0x20 := by
      intro hcode
      exact hspace (Char.toNat_inj.1 hcode)
    have hbeyond : isBeyondVisible c = true := by
      simp only [isBeyondVisible, Bool.or_eq_true, decide_eq_true_eq]
      unfold IsVisibleAscii at hvisible
      omega
    simp [isEncodedInUserInfo, isEncodedInPath, hbeyond]

/-! ### Paths -/

theorem segmentsOf_ne_nil (s : List Char) : segmentsOf s ≠ [] := by
  simp [segmentsOf, List.splitOnP_ne_nil]

/-- Walking along at least one segment leaves at least one. -/
theorem walk_ne_nil (path : List (List Char)) {segments : List (List Char)} (h : segments ≠ []) :
    walk path segments ≠ [] := by
  fun_induction walk path segments with
  | case1 path => exact absurd rfl h
  | case2 path s hs | case3 path s hs hs' | case4 path s hs hs' => simp
  | case5 path s rest hrest hs ih | case6 path s rest hrest hs hs' ih
  | case7 path s rest hrest hs hs' ih => exact ih hrest

/-! ### References -/

namespace WebAddress

/-- **The address is in normal form**: what it says of its server can stand in one, and its path has a
segment. -/
structure IsNormal (a : WebAddress) : Prop where
  userInfo : IsServerText a.userInfo
  host : IsServerText a.host
  segments : a.segments ≠ []

variable {names : Host.Names} {a base : WebAddress} {s reference : List Char} {isEncrypted : Bool}

theorem isServerText_userInfoOf (s : List Char) : IsServerText (userInfoOf s) := by
  have hencode : ∀ s, IsServerText (percentEncode isEncodedInUserInfo s) :=
    isServerText_percentEncode fun c hc => isEncodedInUserInfo_of_not_isServerChar hc
  have hat : IsServerText ['@'] := .cons (by decide) .nil
  unfold userInfoOf
  simp only
  split
  · exact .nil
  split
  · exact (hencode _).append hat
  · exact ((hencode _).append (.cons (by decide) (hencode _))).append hat

theorem isNormal_withPath (huser : IsServerText a.userInfo) (hhost : IsServerText a.host)
    (start : List (List Char)) (s : List Char) : (a.withPath start s).IsNormal :=
  ⟨huser, hhost, walk_ne_nil start (segmentsOf_ne_nil _)⟩

theorem isNormal_of_ofAuthority (h : ofAuthority names isEncrypted s = some a) : a.IsNormal := by
  simp only [ofAuthority, Option.bind_eq_bind, Option.bind_eq_some_iff] at h
  obtain ⟨port, -, host, hhost, h⟩ := h
  cases h
  exact isNormal_withPath (isServerText_userInfoOf _) (Host.isServerText_of_normalize? hhost) _ _

theorem isNormal_of_follow (hbase : base.IsNormal) (h : base.follow names s = some a) :
    a.IsNormal := by
  unfold follow at h
  split at h
  · cases h
    exact hbase
  split at h
  · cases h
    exact hbase
  split at h
  · cases h
    exact ⟨hbase.userInfo, hbase.host, hbase.segments⟩
  split at h
  · split at h
    · exact isNormal_of_ofAuthority h
    · cases h
      exact isNormal_withPath hbase.userInfo hbase.host _ _
  · cases h
    exact isNormal_withPath hbase.userInfo hbase.host _ _

theorem ofOtherScheme_ne_web (name rest : List Char) :
    ofOtherScheme names name rest ≠ some (.web a) := by
  unfold ofOtherScheme
  split
  · simp
  · simp only
    split <;> simp

/-- **Where a reference leads is in normal form**, if the address is that it is seen from. -/
theorem isNormal_of_resolve {base : Option WebAddress} (hbase : ∀ b, base = some b → b.IsNormal)
    (h : resolve names base reference = some (.web a)) : a.IsNormal := by
  unfold resolve at h
  simp only at h
  split at h
  · obtain ⟨a', ha, hweb⟩ := Option.map_eq_some_iff.1 h
    cases hweb
    obtain ⟨b, hb, hfollow⟩ := Option.bind_eq_some_iff.1 ha
    exact isNormal_of_follow (hbase b hb) hfollow
  split at h
  · obtain ⟨a', ha, hweb⟩ := Option.map_eq_some_iff.1 h
    cases hweb
    split at ha
    · split at ha
      · exact isNormal_of_follow (hbase _ rfl) ha
      · exact isNormal_of_ofAuthority ha
    · exact isNormal_of_ofAuthority ha
  · exact absurd h (ofOtherScheme_ne_web _ _)

/-- An address as it is written: behind its scheme the server, and behind that path and query. -/
theorem exists_toText_eq (a : WebAddress) :
    ∃ port query, IsServerText port ∧
      a.toText = (if a.isEncrypted then "https" else "http").toList ++ "://".toList ++
        (a.userInfo ++ a.host ++ port ++ (a.segments.flatMap ('/' :: ·) ++ query)) := by
  refine ⟨a.port.elim [] fun n => ':' :: (toString n).toList, a.query.elim [] ('?' :: ·), ?_, ?_⟩
  · rcases a.port with _ | n
    · exact .nil
    · exact .cons (by decide) (.toString_nat n)
  · obtain ⟨isEncrypted, userInfo, host, _ | n, segments, _ | query⟩ := a <;>
      cases isEncrypted <;> simp [toText]

/-- Behind the server of an address in normal form stands a slash. -/
theorem IsNormal.hasParts (h : a.IsNormal) :
    ∃ name server behind, HasParts a.toText name server ('/' :: behind) := by
  obtain ⟨segment, segments, hsegments⟩ := List.exists_cons_of_ne_nil h.segments
  obtain ⟨port, query, hport, htext⟩ := a.exists_toText_eq
  rw [hsegments, List.flatMap_cons] at htext
  refine ⟨_, _, segment ++ segments.flatMap ('/' :: ·) ++ query, htext, ?_, ?_, ?_⟩
  · cases a.isEncrypted <;> exact List.all_eq_true.1 (by decide)
  · intro c hc
    exact ((h.userInfo.append h.host).append hport c hc).2
  · rw [List.head?_cons]
    rintro c ⟨⟩
    decide

end WebAddress

namespace Address

/-- **The address can be asked for**: its server is an authority, and its path starts with a slash. -/
structure IsSound (address : Address) : Prop where
  authority : isAuthority address.authority = true
  target : address.target.IsRooted

/-- **An address that is followed can be asked for**, whatever the reference says. -/
theorem isSound_of_follow? {names : Host.Names} {address next : Address} {reference : List Char}
    (h : address.follow? names reference = some (some next)) : next.IsSound := by
  unfold follow? at h
  split at h
  · next base hbase =>
    split at h
    · next destination hdestination =>
      split at h
      · next hparse =>
        cases h
        have hnormal : base.IsNormal :=
          WebAddress.isNormal_of_resolve (fun b hb => by cases hb) hbase
        have hnext : destination.IsNormal := by
          refine WebAddress.isNormal_of_resolve (fun b hb => ?_) hdestination
          cases hb
          exact hnormal
        obtain ⟨name, server, behind, hparts⟩ := hnext.hasParts
        obtain ⟨-, -, -, hserver, -, hauthority, htarget⟩ := (parse_eq_ok_iff hparts).1 hparse
        refine ⟨?_, Target.isRooted_of_parse htarget⟩
        rw [hserver]
        exact hauthority
      · cases h
    · cases h
    · cases h
  · cases h

end Address

end CommitGate
