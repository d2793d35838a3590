import SourceWriter.Text.Lines

/-! # Lines with their ends

What stands between the line feeds of a text, each of them with the line feed behind it, are its
ended lines (`Text.endedLines_feed`). A line holds no other line feed than the one at its end, and
is not empty (`Text.isLine_of_mem_endedLines`).
-/

namespace SourceWriter.Text

variable {text content line : Text}

/-- A line with its end, or a line that is not ended. -/
def IsLine (line : Text) : Prop :=
  ∃ content, '\n' ∉ content ∧ (line = content ++ ['\n'] ∨ line = content ∧ content ≠ [])

theorem endedLines_cons {character : Char} (inLine : character ≠ '\n') (rest : Text) :
    endedLines (character :: rest) = pushFirst character (endedLines rest) := by
  rw [endedLines]
  exact inLine

/-- The first line of a text goes up to its first line feed. -/
theorem endedLines_feed (noFeed : '\n' ∉ content) (rest : Text) :
    endedLines (content ++ '\n' :: rest) = (content ++ ['\n']) :: endedLines rest := by
  induction content with
  | nil => rfl
  | cons character others ih =>
      rw [List.mem_cons, not_or] at noFeed
      rw [List.cons_append, endedLines_cons (Ne.symm noFeed.1), ih noFeed.2]
      rfl

/-- What a text is cut into are lines: a line feed stands at their ends at most. -/
theorem isLine_of_mem_endedLines (member : line ∈ endedLines text) : line.IsLine := by
  induction text generalizing line with
  | nil => cases member
  | cons character rest ih =>
      by_cases feed : character = '\n'
      · subst feed
        rcases List.mem_cons.mp member with rfl | later
        · exact ⟨[], by simp, .inl rfl⟩
        · exact ih later
      · rw [endedLines_cons feed] at member
        cases lines : endedLines rest with
        | nil =>
            rw [lines] at member
            obtain rfl := List.mem_singleton.mp member
            exact ⟨[character], by simpa using Ne.symm feed, .inr ⟨rfl, by simp⟩⟩
        | cons first others =>
            rw [lines] at member ih
            rcases List.mem_cons.mp member with rfl | later
            · obtain ⟨content, noFeed, same⟩ := ih List.mem_cons_self
              refine ⟨character :: content, by simp [noFeed, Ne.symm feed], ?_⟩
              rcases same with rfl | ⟨rfl, _⟩
              · exact .inl rfl
              · exact .inr ⟨rfl, by simp⟩
            · exact ih (List.mem_cons_of_mem first later)

/-- The first line starts as the text does. -/
theorem head?_of_head?_endedLines (first : (endedLines text).head? = some line) :
    line.head? = text.head? := by
  cases lines : endedLines text with
  | nil => simp [lines] at first
  | cons other rest =>
      obtain rfl : other = line := by simpa [lines] using first
      have member : other ∈ endedLines text := lines ▸ List.mem_cons_self
      obtain ⟨content, _, same⟩ := isLine_of_mem_endedLines member
      have whole := flatten_endedLines text
      rw [lines, List.flatten_cons] at whole
      rw [← whole]
      rcases same with rfl | ⟨rfl, filled⟩
      · cases content <;> rfl
      · cases other with
        | nil => exact absurd rfl filled
        | cons => rfl

end SourceWriter.Text
