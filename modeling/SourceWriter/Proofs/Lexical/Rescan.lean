import SourceWriter.Lexical.Feed
import SourceWriter.Proofs.Text.Cut

/-! # Reading a text afresh

The lexical state at the end of a text can be found without its history: the text is cut at its
terminators, each line is fed after all the text before it, and a line ends after each of them
(`rescan`). Reading on from there is the same as reading all of it again: a part of a line is fed
to the state (`rescan_append_of_not_mem`), and a terminator ends its line
(`rescan_append_terminator`).
-/

namespace SourceWriter.Lexical

/-- Reads lines with a terminator between each two, after the text `previous`. -/
def scan (terminator : Terminator) (state : State) (previous : Text) : List Text → State
  | [] => state
  | [line] => state.feed previous line
  | line :: next :: rest =>
    scan terminator (state.feed previous line).endLine (previous ++ line ++ terminator.text)
      (next :: rest)

/-- The state at the end of a text, found from the text alone. -/
def rescan (terminator : Terminator) (text : Text) : State :=
  scan terminator {} [] (terminator.cut text)

variable {terminator : Terminator}

/-- A scan goes on behind a line as from the state that the line ends with. -/
theorem scan_cons {lines : List Text} (nonempty : lines ≠ []) (state : State)
    (previous line : Text) :
    scan terminator state previous (line :: lines) =
      scan terminator (state.feed previous line).endLine (previous ++ line ++ terminator.text)
        lines := by
  cases lines with
  | nil => contradiction
  | cons next rest => rfl

/-- Reading lines that go on with others: the state at the end of the first ones reads on. -/
theorem scan_fuse {lines : List Text} (nonempty : lines ≠ []) (state : State)
    (previous next : Text) (rest : List Text) :
    scan terminator state previous (Text.fuse lines (next :: rest)) =
      scan terminator (scan terminator state previous lines)
        (previous ++ terminator.text.intercalate lines) (next :: rest) := by
  induction lines generalizing state previous with
  | nil => contradiction
  | cons line others ih =>
      cases others with
      | nil =>
          rw [List.intercalate_singleton]
          cases rest with
          | nil => exact State.feed_append state previous line next
          | cons second following =>
              simp only [Text.fuse, scan, State.feed_append, List.append_assoc]
      | cons second following =>
          have more : second :: following ≠ [] := List.cons_ne_nil second following
          rw [Text.fuse_cons more, scan_cons (Text.fuse_ne_nil more _), ih more, scan_cons more,
            List.intercalate_cons_cons]
          simp only [List.append_assoc]

/-- Reading a text that goes on: the state at the end of its first part reads on. -/
theorem rescan_append {first second : Text}
    (uncut : terminator = .crlf → first.getLast? = some '\r' → second.head? ≠ some '\n') :
    rescan terminator (first ++ second) =
      scan terminator (rescan terminator first) first (terminator.cut second) := by
  obtain ⟨next, rest, pieces⟩ := List.exists_cons_of_ne_nil (terminator.cut_ne_nil second)
  rw [rescan, Terminator.cut_append uncut, pieces, scan_fuse (terminator.cut_ne_nil first),
    terminator.intercalate_cut, List.nil_append]
  rfl

/-- A part of a line is fed to the state before it. -/
theorem rescan_append_of_not_mem {text part : Text} (noFeed : '\n' ∉ part) :
    rescan terminator (text ++ part) = (rescan terminator text).feed text part := by
  have uncut : part.head? ≠ some '\n' := by
    intro first
    exact noFeed (List.mem_of_head? first)
  rw [rescan_append fun _ _ => uncut, Terminator.cut_of_not_mem noFeed]
  rfl

/-- A terminator ends the line before it. -/
theorem rescan_append_terminator (text : Text) :
    rescan terminator (text ++ terminator.text) = (rescan terminator text).endLine := by
  have pieces : terminator.cut terminator.text = [[], []] := by
    cases terminator <;> rfl
  rw [rescan_append, pieces]
  · rfl
  · rintro rfl _
    simp [Terminator.text]

end SourceWriter.Lexical
