import CommitGate.Json.Value
import CommitGate.Proofs.Json.Grammar

/-!
# Looking at something as JSON

A value that has been read and the tree that a text is taken apart into are looked at in the same
way (`View`): what is `null`, which text a string has, which elements a list, which members an object.
What a decoder makes of its input is said over any view (`Meaning`).
-/

namespace CommitGate.Json

/-! ### Views -/

/-- How something is looked at as JSON. -/
structure View (τ : Type) where
  /-- It is `null`. -/
  isNull : τ → Prop
  /-- It is a string with this text. -/
  text : τ → String → Prop
  /-- It is a list of these elements. -/
  items : τ → List τ → Prop
  /-- It is an object of these members. -/
  members : τ → List (String × τ) → Prop
  not_isNull_of_text : ∀ {x s}, text x s → ¬ isNull x

/-- A value is what it is. -/
def Value.view : View Value where
  isNull v := v = .null
  text v s := v = .string s
  items v l := v = .list l
  members v ms := v = .object ms
  not_isNull_of_text := by
    rintro _ s rfl ⟨⟩

/-- A tree has its strings and keys as they are spelled. -/
def Node.view : View Node where
  isNull n := n = .null
  text n s := ∃ t, n = .string t ∧ TextWritten s.toList t
  items n l := n = .list l
  members n named := ∃ ms, n = .object ms ∧ Named ms named
  not_isNull_of_text := by
    rintro _ s ⟨t, rfl, -⟩ ⟨⟩

section Views

variable {v : Value} {n : Node} {s : String}

@[simp] theorem isNull_value_iff : Value.view.isNull v ↔ v = .null := .rfl

@[simp] theorem text_value_iff : Value.view.text v s ↔ v = .string s := .rfl

@[simp] theorem items_value_iff {l : List Value} : Value.view.items v l ↔ v = .list l := .rfl

@[simp] theorem members_value_iff {ms : List (String × Value)} :
    Value.view.members v ms ↔ v = .object ms := .rfl

@[simp] theorem isNull_node_iff : Node.view.isNull n ↔ n = .null := .rfl

@[simp] theorem text_node_iff :
    Node.view.text n s ↔ ∃ t, n = .string t ∧ TextWritten s.toList t := .rfl

@[simp] theorem items_node_iff {l : List Node} : Node.view.items n l ↔ n = .list l := .rfl

@[simp] theorem members_node_iff {named : List (String × Node)} :
    Node.view.members n named ↔ ∃ ms, n = .object ms ∧ Named ms named := .rfl

end Views

/-- What is made of something that can be looked at as JSON. -/
abbrev Meaning (α : Type) := (τ : Type) → View τ → τ → α → Prop

/-! ### Members by key -/

section Slots

variable {τ β : Type}

/-- The values of the members with a key. -/
def valuesAt (key : String) (ms : List (String × τ)) : List τ :=
  (ms.filter fun m => m.1 == key).map (·.2)

@[simp] theorem valuesAt_nil (key : String) : valuesAt key ([] : List (String × τ)) = [] := rfl

theorem valuesAt_cons_self (key : String) (x : τ) (ms : List (String × τ)) :
    valuesAt key ((key, x) :: ms) = x :: valuesAt key ms := by
  simp [valuesAt]

theorem valuesAt_cons_of_ne {key key' : String} (h : key' ≠ key) (x : τ) (ms : List (String × τ)) :
    valuesAt key ((key', x) :: ms) = valuesAt key ms := by
  simp [valuesAt, h]

/-- A slot that is filled by each of the values as `content` says, and once at most. -/
def Fills (content : τ → β → Prop) : List τ → Option β → Option β → Prop
  | [], old, new => new = old
  | x :: xs, old, new => old = none ∧ ∃ b, content x b ∧ Fills content xs (some b) new

/-- A slot that is empty is filled by one value at most. -/
theorem fills_none_iff {content : τ → β → Prop} {xs : List τ} {new : Option β} :
    Fills content xs none new ↔
      (xs = [] ∧ new = none) ∨ ∃ x b, xs = [x] ∧ content x b ∧ new = some b := by
  rcases xs with _ | ⟨x, _ | ⟨y, ys⟩⟩ <;> simp [Fills]

/-- What one value at most is taken for; where there is no value it is the default. -/
def OrDefault (content : τ → β → Prop) (default : β) (xs : List τ) (b : β) : Prop :=
  (xs = [] ∧ b = default) ∨ ∃ x, xs = [x] ∧ content x b

@[simp] theorem orDefault_nil_iff {content : τ → β → Prop} {default b : β} :
    OrDefault content default [] b ↔ b = default := by
  simp [OrDefault]

@[simp] theorem orDefault_singleton_iff {content : τ → β → Prop} {default : β} {x : τ} {b : β} :
    OrDefault content default [x] b ↔ content x b := by
  simp [OrDefault]

theorem not_orDefault_cons_cons {content : τ → β → Prop} {default : β} {x y : τ} {xs : List τ}
    {b : β} : ¬ OrDefault content default (x :: y :: xs) b := by
  simp [OrDefault]

/-- The default is what a slot that stays empty counts as. -/
theorem fills_getD_iff {content : τ → β → Prop} {default : β} {xs : List τ} {b : β} :
    (∃ new, Fills content xs none new ∧ new.getD default = b) ↔
      OrDefault content default xs b := by
  simp only [fills_none_iff, OrDefault]
  constructor
  · rintro ⟨_, ⟨rfl, rfl⟩ | ⟨x, b, rfl, hx, rfl⟩, rfl⟩
    · exact .inl ⟨rfl, rfl⟩
    · exact .inr ⟨x, rfl, hx⟩
  · rintro (⟨rfl, rfl⟩ | ⟨x, rfl, hx⟩)
    · exact ⟨none, .inl ⟨rfl, rfl⟩, rfl⟩
    · exact ⟨some b, .inr ⟨x, b, rfl, hx, rfl⟩, rfl⟩

end Slots

end CommitGate.Json
