import Mathlib.Data.List.Chain
import SourceWriter.Proofs.Writer.Part

/-! # Writing in pieces

It makes no difference whether a text is written at once or in pieces, one after the other
(`Writer.writeAll_eq_write_flatten`): everything that a writer knows is the same afterwards. Two
kinds of cuts are excepted. A line feed must stay with the carriage return before it, as the two
are one line end; and an empty piece is not nothing, as it starts a line.
-/

namespace SourceWriter

/-- The cut between two pieces does not part a line feed from its carriage return. -/
def Text.Uncut (first second : Text) : Prop :=
  first.getLast? = some '\r' → second.head? ≠ some '\n'

instance (first second : Text) : Decidable (Text.Uncut first second) :=
  inferInstanceAs (Decidable (first.getLast? = some '\r' → second.head? ≠ some '\n'))

namespace Writer

/-- The rest of a line goes on where its first part ends. -/
theorem putLine_putLine {first : Text} (noFeed : '\n' ∉ first) (second : Text)
    (writer : Writer) :
    (writer.putLine first).putLine second = writer.putLine (first ++ second) := by
  by_cases firstEmpty : first = []
  · subst firstEmpty
    rfl
  · by_cases secondEmpty : second = []
    · subst secondEmpty
      rw [List.append_nil]
      rfl
    · have started : (writer.startLine.append first).atLineStart = false :=
        atLineStart_append firstEmpty noFeed _
      simp only [putLine, List.isEmpty_iff, firstEmpty, secondEmpty, List.append_eq_nil_iff,
        and_self, ↓reduceIte, put]
      rw [startLine_of_started started, append_append]

/-- Lines that go on with others are written the same when the others follow on their own. -/
theorem putJoined_putJoined {first : List Text} (nonempty : first ≠ [])
    (noFeeds : ∀ line ∈ first, '\n' ∉ line) (second : List Text) (writer : Writer) :
    (writer.putJoined first).putJoined second = writer.putJoined (Text.fuse first second) := by
  induction first generalizing writer with
  | nil => contradiction
  | cons line rest ih =>
      by_cases last : rest = []
      · subst last
        cases second with
        | nil => rfl
        | cons next following =>
            have goesOn := putLine_putLine (noFeeds line List.mem_cons_self) next writer
            simp only [Text.fuse, putJoined, putLines, List.foldl_nil, goesOn]
      · rw [Text.fuse_cons last, putJoined_cons last,
          putJoined_cons (Text.fuse_ne_nil last second)]
        apply ih last
        intro line member
        exact noFeeds line (List.mem_cons_of_mem _ member)

/-- Writing a text in two pieces is writing it whole, if neither is empty and no line end is cut. -/
theorem putText_putText {first second : Text} (firstFilled : first ≠ [])
    (secondFilled : second ≠ []) (uncut : first.Uncut second) (writer : Writer) :
    (writer.putText first).putText second = writer.putText (first ++ second) := by
  have filled : first ++ second ≠ [] := List.append_ne_nil_of_left_ne_nil firstFilled second
  rw [putText_eq_putJoined firstFilled, putText_eq_putJoined secondFilled,
    putText_eq_putJoined filled, Text.lines_append uncut]
  apply putJoined_putJoined (Text.lines_ne_nil first)
  intro line member
  exact Text.not_mem_of_mem_lines member

/-- The same, with the line break that may be owed before the first piece. -/
theorem write_write {first second : Text} (firstFilled : first ≠ []) (secondFilled : second ≠ [])
    (uncut : first.Uncut second) (writer : Writer) :
    (writer.write first).write second = writer.write (first ++ second) := by
  have settled : (writer.write first).owesLine = false := by
    rw [write, owesLine_putText, owesLine_settle]
  rw [write, settle_of_settled settled]
  exact putText_putText firstFilled secondFilled uncut writer.settle

/-- **Chunking.** Pieces written one after the other leave the writer as their concatenation
does, whatever the writer was like before. -/
theorem writeAll_eq_write_flatten (writer : Writer) {parts : List Text} (nonempty : parts ≠ [])
    (filled : ∀ part ∈ parts, part ≠ []) (uncut : parts.IsChain Text.Uncut) :
    writer.writeAll parts = writer.write parts.flatten := by
  induction parts generalizing writer with
  | nil => contradiction
  | cons first rest ih =>
      cases rest with
      | nil => rw [List.flatten_singleton]; rfl
      | cons second others =>
          obtain ⟨cut, later⟩ := List.isChain_cons_cons.mp uncut
          have secondFilled : second ≠ [] := filled second (by simp)
          have filledLater : ∀ part ∈ second :: others, part ≠ [] := by
            intro part member
            exact filled part (List.mem_cons_of_mem _ member)
          have following := ih (writer.write first) (List.cons_ne_nil _ _) filledLater later
          have restFilled : (second :: others).flatten ≠ [] := by
            simp [secondFilled]
          have head : (second :: others).flatten.head? = second.head? := by
            rw [List.flatten_cons, List.head?_append_of_ne_nil _ secondFilled]
          calc writer.writeAll (first :: second :: others)
              = (writer.write first).writeAll (second :: others) := rfl
            _ = (writer.write first).write (second :: others).flatten := following
            _ = writer.write (first ++ (second :: others).flatten) :=
                write_write (filled first List.mem_cons_self) restFilled (by rwa [Text.Uncut, head])
                  writer

/-- Cuts through an escape, a hole and the start of a comment, after a line break that is owed and
with a level queued. -/
theorem writeAll_eq_write_flatten_cut_marks :
    let writer : Writer :=
      { options := { terminator := .crlf }, written := ['}'], queued := some 2, owesLine := true }
    let parts : List Text :=
      [['`', '\\'], ['`', '$'], ['{', '/'], ['/', '\n', 'x', '\r'], ['\r', '\n']]
    parts ≠ [] ∧ (∀ part ∈ parts, part ≠ []) ∧ parts.IsChain Text.Uncut ∧
      writer.writeAll parts = writer.write parts.flatten := by
  intro writer parts
  have nonempty : parts ≠ [] := by decide
  have filled : ∀ part ∈ parts, part ≠ [] := by decide
  have uncut : parts.IsChain Text.Uncut := by decide
  exact ⟨nonempty, filled, uncut, writeAll_eq_write_flatten writer nonempty filled uncut⟩

-- Neither exception can be dropped.
example : writeAll { options := {} } [['\r'], ['\n']] ≠ write { options := {} } ['\r', '\n'] := by
  decide +kernel

example :
    writeAll { options := {}, level := 1 } [[], ['\n']] ≠
      write { options := {}, level := 1 } ['\n'] := by
  decide +kernel

end Writer

end SourceWriter
