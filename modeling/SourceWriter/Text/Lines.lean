import SourceWriter.Text.Basic

/-! # Lines

A line ends at a line feed, and one carriage return right before that line feed belongs to the
end of the line. `Text.lines` leaves these ends out: a text has one line more than it has line
feeds. `Text.endedLines` keeps every line together with its end: its lines join up to the text.
-/

namespace SourceWriter.Text

/-- Puts a character in front of the first line. -/
def pushFirst (character : Char) : List Text → List Text
  | [] => [[character]]
  | line :: rest => (character :: line) :: rest

/-- The lines of a text, without the line feed, or carriage return and line feed, between
them. -/
def lines : Text → List Text
  | [] => [[]]
  | '\r' :: '\n' :: rest => [] :: lines rest
  | '\n' :: rest => [] :: lines rest
  | character :: rest => pushFirst character (lines rest)

/-- The lines of a text, each with the line feed that ends it. Only the last line may lack one,
and the empty text has no lines. -/
def endedLines : Text → List Text
  | [] => []
  | '\n' :: rest => ['\n'] :: endedLines rest
  | character :: rest => pushFirst character (endedLines rest)

/-- Every text has a line, the empty text an empty one. -/
theorem lines_ne_nil (text : Text) : lines text ≠ [] := by
  fun_cases lines text with
  | case1 => simp
  | case2 => simp
  | case3 => simp
  | case4 character rest =>
      cases lines rest <;> simp [pushFirst]

theorem flatten_pushFirst (character : Char) (lines : List Text) :
    (pushFirst character lines).flatten = character :: lines.flatten := by
  cases lines <;> rfl

/-- The lines with their ends join up to the text. -/
theorem flatten_endedLines (text : Text) : (endedLines text).flatten = text := by
  fun_induction endedLines text with
  | case1 => rfl
  | case2 rest ih => simp [ih]
  | case3 character rest _ ih => rw [flatten_pushFirst, ih]

end SourceWriter.Text
