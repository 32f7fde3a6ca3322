import CommitGate.Http.Head
import CommitGate.Http.Request
import CommitGate.Proofs.Address.Origin
import CommitGate.Proofs.Text.Utf8

/-!
# Requests as bytes

A request is sent as its line, the lines of its headers and an empty line. If the request is clean
(`Request.IsClean`), none of the texts that went into it has a byte that ends a line or a word. A
reader then finds just that line and just those headers, and nothing behind them
(`Request.IsClean.readsBack`).
-/

namespace CommitGate.Http

open Text (toBytes)

/-- The bytes of a line, with its end. -/
def lineBytes (line : String) : Bytes := toBytes line.toList ++ [0x0D, 0x0A]

/-- The bytes of a request. It has no body, so they end with an empty line. -/
def Request.toBytes (r : Request) : Bytes :=
  lineBytes r.startLine ++ (r.headers.flatMap (fun h => lineBytes h.line) ++ lineBytes "")

/-- The field that a header is meant to be read as. -/
def Header.field (h : Header) : HeaderField :=
  { name := h.name, value := trimBytes (Text.toBytes h.value.toList) }

/-- **The header is clean**: its name can be read as one, and its value has no control character other
than the tab. -/
structure Header.IsClean (h : Header) : Prop where
  named : h.name ≠ ""
  name : ∀ b ∈ toBytes h.name.toList, isNameByte b = true
  lower : lowerText (toBytes h.name.toList) = h.name
  value : ∀ b ∈ toBytes h.value.toList, b = 0x09 ∨ 0x20 ≤ b ∧ b ≠ 0x7F

/-- **The request is clean**: its line has one target, which starts with a slash and has no blank, no
control character and no `#`; its headers are clean, and so is the name of the server that it goes
to. -/
structure Request.IsClean (r : Request) : Prop where
  line : ∃ target, r.startLine = "GET " ++ String.ofList target ++ " HTTP/1.1" ∧
    target.head? = some '/' ∧ ∀ b ∈ Text.toBytes target, 0x21 ≤ b ∧ b ≠ 0x7F ∧ b ≠ 0x23
  headers : ∀ h ∈ r.headers, h.IsClean
  count : r.headers.length ≤ Head.maxFields
  host : ∀ c ∈ r.origin.host.toList, IsVisibleAscii c

/-- **The request is read as it was meant**: its bytes are its line, its headers in order, and nothing
else, neither one more header nor another request. -/
def Request.ReadsBack (r : Request) : Prop :=
  ∃ rest, takeLine? r.toBytes = some (Text.toBytes r.startLine.toList, rest) ∧
    readFields? Head.maxFields rest = some (r.headers.map Header.field, [])

/-! ### Lines -/

/-- A line is read up to its end. -/
theorem takeLine?_append {line : Bytes} (h : ∀ b ∈ line, b ≠ 0x0A) (rest : Bytes) :
    takeLine? (line ++ [0x0D, 0x0A] ++ rest) = some (line, rest) := by
  have hsplit : line ++ [0x0D, 0x0A] ++ rest = line ++ [0x0D] ++ 0x0A :: rest := by simp
  have htake : (line ++ [0x0D] ++ 0x0A :: rest).takeWhile (· != 0x0A) = line ++ [0x0D] := by
    refine takeWhile_append_of_stop (fun b hb => ?_) fun b hb => ?_
    · rcases List.mem_append.1 hb with hb | hb
      · simpa using h b hb
      · obtain rfl := List.mem_singleton.1 hb
        rfl
    · obtain rfl : 0x0A = b := by simpa using hb
      rfl
  simp only [takeLine?, hsplit, htake, List.drop_left, List.getLast?_append,
    List.getLast?_singleton, Option.some_or, if_true, List.dropLast_concat]

theorem trimBytes_space_cons (value : Bytes) : trimBytes (0x20 :: value) = trimBytes value := by
  have hspace : isSpaceByte 0x20 = true := by decide
  rw [trimBytes, List.dropWhile_cons_of_pos hspace, trimBytes]

/-! ### Headers -/

namespace Header

variable {h : Header}

theorem toBytes_line (h : Header) :
    toBytes h.line.toList =
      toBytes h.name.toList ++ 0x3A :: 0x20 :: toBytes h.value.toList := by
  have hcolon : toBytes ": ".toList = [0x3A, 0x20] := by decide
  rw [line, String.toList_append, String.toList_append, Text.toBytes_append, Text.toBytes_append,
    hcolon, List.append_assoc]
  rfl

theorem isValueByte_of_isClean (hclean : h.IsClean) :
    ∀ b ∈ toBytes h.value.toList, isValueByte b = true := by
  intro b hb
  simpa [isValueByte] using hclean.value b hb

/-- The line of a clean header is read as the field that it is meant to be. -/
theorem ofLine?_line (hclean : h.IsClean) :
    HeaderField.ofLine? (toBytes h.line.toList) = some h.field := by
  have htake : (toBytes h.line.toList).takeWhile isNameByte = toBytes h.name.toList := by
    rw [toBytes_line]
    refine takeWhile_append_of_stop hclean.name fun b hb => ?_
    obtain rfl : 0x3A = b := by simpa using hb
    decide
  have hname : (toBytes h.name.toList).isEmpty = false := by
    rw [List.isEmpty_eq_false_iff]
    intro hnil
    have hempty : h.name.toList = [] := Text.toBytes_inj.1 hnil
    exact hclean.named (by simpa using hempty)
  have hvalue : (0x20 :: toBytes h.value.toList).all isValueByte = true := by
    rw [List.all_cons, List.all_eq_true.2 (isValueByte_of_isClean hclean)]
    decide
  simp only [HeaderField.ofLine?, htake]
  rw [toBytes_line, List.drop_left]
  simp only [hname, hvalue, Bool.not_false, Bool.and_self, if_true, hclean.lower,
    trimBytes_space_cons, field]

/-- No byte of the line of a clean header ends it. -/
theorem ne_lineFeed_of_isClean (hclean : h.IsClean) : ∀ b ∈ toBytes h.line.toList, b ≠ 0x0A := by
  intro b hb
  rw [toBytes_line, List.mem_append, List.mem_cons, List.mem_cons] at hb
  rintro rfl
  rcases hb with hb | hb | hb | hb
  · exact absurd (hclean.name _ hb) (by decide)
  · cases hb
  · cases hb
  · exact absurd (hclean.value _ hb) (by decide)

theorem line_ne_nil (h : Header) : toBytes h.line.toList ≠ [] := by
  simp [toBytes_line]

end Header

/-- Clean headers are read back one by one, up to the empty line. -/
theorem readFields?_headers {headers : List Header} {room : Nat}
    (hclean : ∀ h ∈ headers, h.IsClean) (hroom : headers.length ≤ room) :
    readFields? room (headers.flatMap (fun h => lineBytes h.line) ++ lineBytes "") =
      some (headers.map Header.field, []) := by
  induction headers generalizing room with
  | nil =>
    have hline : takeLine? (lineBytes "") = some ([], []) := rfl
    unfold readFields?
    rw [List.flatMap_nil, List.nil_append, hline]
    rfl
  | cons h headers ih =>
    obtain ⟨hhead, hrest⟩ := List.forall_mem_cons.1 hclean
    rcases room with _ | room
    · cases hroom
    have hline : takeLine? ((h :: headers).flatMap (fun h => lineBytes h.line) ++ lineBytes "") =
        some (toBytes h.line.toList,
          headers.flatMap (fun h => lineBytes h.line) ++ lineBytes "") := by
      rw [List.flatMap_cons, List.append_assoc, lineBytes]
      exact takeLine?_append (Header.ne_lineFeed_of_isClean hhead) _
    have hfields := ih hrest (Nat.le_of_succ_le_succ hroom)
    unfold readFields?
    rw [hline]
    rcases hbytes : toBytes h.line.toList with _ | ⟨b, line⟩
    · exact absurd hbytes h.line_ne_nil
    · simp only [← hbytes, Header.ofLine?_line hhead, hfields, List.map_cons]

/-! ### Requests -/

/-- **A clean request is read as it was meant.** -/
theorem Request.IsClean.readsBack {r : Request} (h : r.IsClean) : r.ReadsBack := by
  refine ⟨_, takeLine?_append (fun b hb => ?_) _, readFields?_headers h.headers h.count⟩
  obtain ⟨target, hline, -, htarget⟩ := h.line
  rintro rfl
  rw [hline, String.toList_append, String.toList_append, Text.toBytes_append, Text.toBytes_append,
    List.mem_append, List.mem_append] at hb
  rcases hb with (hb | hb) | hb
  · exact absurd hb (by decide)
  · rw [String.toList_ofList] at hb
    exact absurd (htarget _ hb) (by decide)
  · exact absurd hb (by decide)

end CommitGate.Http
