import Mathlib.Data.List.DropRight
import SourceWriter.Text.Basic

/-! # How a text begins and ends

What has been read or done up to some point is a prefix of the whole. A prefix of two lists in a
row ends within the first or goes on into the second (`prefix_or_goesOn`), and between its first
and its last character a text has read a prefix of what stands between them
(`Text.inner_prefix_iff`). Whether a character is escaped is told by the backslashes that the text
before it ends in (`Text.backslashesAtEnd`).
-/

namespace SourceWriter

/-- What has been passed of two lists in a row ends within the first or goes on into the second. -/
theorem prefix_or_goesOn {α : Type*} {first second passed : List α}
    (begins : passed <+: first ++ second) :
    passed <+: first ∨ ∃ later, later <+: second ∧ passed = first ++ later := by
  by_cases inside : passed <+: first
  · exact .inl inside
  · have whole : first <+: passed :=
      (List.prefix_or_prefix_of_prefix begins (List.prefix_append _ _)).resolve_left inside
    obtain ⟨later, rfl⟩ := whole
    exact .inr ⟨later, (List.prefix_append_right_inj first).mp begins, rfl⟩

/-- What has been passed of a list ends before, between or behind its first two elements. -/
theorem prefix_cons_cons_iff {α : Type*} {first second : α} {rest passed : List α} :
    passed <+: first :: second :: rest ↔
      passed = [] ∨ passed = [first] ∨
        ∃ later, later <+: rest ∧ passed = first :: second :: later := by
  rw [List.prefix_cons_iff]
  constructor
  · rintro (rfl | ⟨behind, rfl, begins⟩)
    · exact .inl rfl
    · rcases List.prefix_cons_iff.mp begins with rfl | ⟨later, rfl, further⟩
      · exact .inr (.inl rfl)
      · exact .inr (.inr ⟨later, further, rfl⟩)
  · rintro (rfl | rfl | ⟨later, further, rfl⟩)
    · exact .inl rfl
    · exact .inr ⟨[], rfl, List.nil_prefix⟩
    · exact .inr ⟨second :: later, rfl, List.cons_prefix_cons.mpr ⟨rfl, further⟩⟩

/-- A mark that has been passed is the first element, or stands among those behind it. -/
theorem concat_prefix_cons_iff {α : Type*} {mark first : α} {rest passed : List α} :
    passed ++ [mark] <+: first :: rest ↔
      (passed = [] ∧ mark = first) ∨
        ∃ later, later ++ [mark] <+: rest ∧ passed = first :: later := by
  cases passed with
  | nil => simp
  | cons head later =>
      rw [List.cons_append, List.cons_prefix_cons]
      constructor
      · rintro ⟨rfl, begins⟩
        exact .inr ⟨later, begins, rfl⟩
      · rintro (⟨empty, _⟩ | ⟨further, begins, same⟩)
        · exact absurd empty (List.cons_ne_nil _ _)
        · obtain ⟨rfl, rfl⟩ := List.cons.inj same
          exact ⟨rfl, begins⟩

namespace Text

/-- Between its first and its last character, a text has passed a prefix of what stands between
them. -/
theorem inner_prefix_iff {part middle : Text} {first last : Char} :
    part <+: first :: (middle ++ [last]) ∧ part ≠ [] ∧ part ≠ first :: (middle ++ [last]) ↔
      ∃ inner, inner <+: middle ∧ part = first :: inner := by
  rw [List.prefix_cons_iff]
  constructor
  · rintro ⟨rfl | ⟨inner, rfl, passed⟩, nonempty, proper⟩
    · contradiction
    · rcases List.prefix_concat_iff.mp passed with rfl | inside
      · contradiction
      · exact ⟨inner, inside, rfl⟩
  · rintro ⟨inner, inside, rfl⟩
    refine ⟨.inr ⟨inner, rfl, inside.trans (List.prefix_append _ _)⟩, List.cons_ne_nil _ _, ?_⟩
    intro whole
    have longer := inside.length_le
    rw [(List.cons.inj whole).2, List.length_append, List.length_singleton] at longer
    omega

/-- The proper prefixes of a text that are not empty are its first character and a prefix of its
middle. -/
theorem forall_inner_prefix_iff {middle : Text} {first last : Char} {property : Text → Prop} :
    (∀ part, part <+: first :: (middle ++ [last]) → part ≠ [] →
        part ≠ first :: (middle ++ [last]) → property part) ↔
      ∀ inner, inner <+: middle → property (first :: inner) := by
  constructor
  · intro holds inner passed
    obtain ⟨begins, nonempty, proper⟩ := inner_prefix_iff.mpr ⟨inner, passed, rfl⟩
    exact holds _ begins nonempty proper
  · intro holds part begins nonempty proper
    obtain ⟨inner, passed, rfl⟩ := inner_prefix_iff.mp ⟨begins, nonempty, proper⟩
    exact holds inner passed

theorem head?_ne_of_prefix {part text : Text} (passed : part <+: text) {character : Char}
    (other : text.head? ≠ some character) : part.head? ≠ some character := by
  obtain ⟨rest, rfl⟩ := passed
  cases part with
  | nil => nofun
  | cons first rest => exact other

/-- How many backslashes in a row a text ends in. -/
def backslashesAtEnd (text : Text) : Nat :=
  (text.rtakeWhile (· == '\\')).length

/-- A backslash adds to those that a text ends with, and any other character ends their row. -/
theorem backslashesAtEnd_concat (text : Text) (character : Char) :
    backslashesAtEnd (text ++ [character]) =
      if character = '\\' then text.backslashesAtEnd + 1 else 0 := by
  simp only [backslashesAtEnd, List.rtakeWhile_concat, beq_iff_eq]
  split
  · exact List.length_append
  · rfl

end Text

end SourceWriter
