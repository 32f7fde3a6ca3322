/-!
# Blank characters

The characters with the Unicode property White_Space, and the text left when they are taken off
both ends.
-/

namespace CommitGate.Text

/-- The code points of the property, as closed ranges, ascending and apart. -/
def blankRanges : List (Nat × Nat) :=
  [(0x09, 0x0D), (0x20, 0x20), (0x85, 0x85), (0xA0, 0xA0), (0x1680, 0x1680), (0x2000, 0x200A),
   (0x2028, 0x2029), (0x202F, 0x202F), (0x205F, 0x205F), (0x3000, 0x3000)]

/-- Whether a number lies in one of the closed ranges. -/
def inRanges (ranges : List (Nat × Nat)) (n : Nat) : Bool :=
  ranges.any fun r => r.1 ≤ n && n ≤ r.2

/-- Whether a character counts as white space. -/
def isBlank (c : Char) : Bool := inRanges blankRanges c.toNat

/-- The text without the blank characters at its end. -/
def trimEnd (s : List Char) : List Char := (s.reverse.dropWhile isBlank).reverse

/-- The text without the blank characters at either end. -/
def trim (s : List Char) : List Char := trimEnd (s.dropWhile isBlank)

theorem mem_inRanges {ranges : List (Nat × Nat)} {n : Nat} :
    inRanges ranges n = true ↔ ∃ r ∈ ranges, r.1 ≤ n ∧ n ≤ r.2 := by
  simp [inRanges]

/-- Trimming leaves the middle of the text: what goes is blank, on either side. -/
theorem exists_trim (s : List Char) :
    ∃ front back : List Char, s = front ++ trim s ++ back ∧
      (∀ c ∈ front, isBlank c = true) ∧ ∀ c ∈ back, isBlank c = true := by
  have hwhile : ∀ l : List Char, ∀ c ∈ l.takeWhile isBlank, isBlank c = true := by
    intro l
    induction l with
    | nil => simp
    | cons a l ih =>
      by_cases ha : isBlank a = true
      · simpa [ha] using ih
      · simp [ha]
  have hsplit : ∀ l : List Char,
      l = (l.reverse.dropWhile isBlank).reverse ++ (l.reverse.takeWhile isBlank).reverse := by
    intro l
    rw [← List.reverse_append, List.takeWhile_append_dropWhile, List.reverse_reverse]
  refine ⟨s.takeWhile isBlank, ((s.dropWhile isBlank).reverse.takeWhile isBlank).reverse,
    ?_, hwhile s, fun c hc => hwhile _ c (by simpa using hc)⟩
  rw [List.append_assoc, trim, trimEnd, ← hsplit, List.takeWhile_append_dropWhile]

end CommitGate.Text
