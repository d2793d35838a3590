import SourceWriter.Proofs.Diff.Patch
import SourceWriter.Proofs.Text.EndedLines

/-! # Unified diffs as patches

The lines of a unified diff are the names of its sides, the headers of its hunks, and their marked
lines (`Patch.lines_unified`). Applied to the old text, it gives the new one
(`Patch.apply_unified`).
-/

namespace SourceWriter

/-- A unified diff names its sides, even if it has no hunks. -/
theorem Diff.unified_ne_nil (old new : Text) : Diff.unified old new ≠ [] :=
  List.append_ne_nil_of_left_ne_nil (by decide) _

namespace Patch

open Diff

variable {line content rest : Text}

/-- A line of a patch that no note follows. -/
theorem heedNotes_cons {lines : List Text} (unnoted : lines.head? ≠ some note) (line : Text) :
    heedNotes (line :: lines) = line :: heedNotes lines := by
  cases lines with
  | nil => rfl
  | cons next others =>
      have other : next ≠ note := by simpa using unnoted
      rw [heedNotes, if_neg other]

theorem lines_feed (noFeed : '\n' ∉ content) (unnoted : rest.head? ≠ some '\\') :
    lines (content ++ '\n' :: rest) = (content ++ ['\n']) :: lines rest := by
  rw [lines, Text.endedLines_feed noFeed, heedNotes_cons]
  · rfl
  · intro noted
    exact unnoted (Text.head?_of_head?_endedLines noted).symm

/-- A line that is not ended has a line feed in a patch, and a note that takes it off again. -/
theorem lines_unended (noFeed : '\n' ∉ content) (rest : Text) :
    lines (content ++ unendedNote ++ rest) = content :: lines rest := by
  let single : Text := "\\ No newline at end of file".toList
  have whole : single ++ ['\n'] = note := rfl
  have singleLine : '\n' ∉ single := by decide
  have noted : content ++ unendedNote ++ rest = content ++ '\n' :: (single ++ '\n' :: rest) :=
    List.append_assoc content _ _
  rw [lines, noted, Text.endedLines_feed noFeed, Text.endedLines_feed singleLine, whole, heedNotes,
    if_pos rfl, List.dropLast_concat]
  rfl

/-- A marked line is one line of a patch, ended or not. -/
theorem lines_renderLine (mark : Mark) {text : Text} (isLine : text.IsLine)
    (unnoted : rest.head? ≠ some '\\') :
    lines (renderLine (mark, text) ++ rest) = markedLine (mark, text) :: lines rest := by
  have unmarked : '\n' ∉ markText mark text := by
    cases mark with
    | context => by_cases empty : text = ['\n'] <;> simp [markText, empty]
    | removed => simp [markText]
    | added => simp [markText]
  obtain ⟨content, noFeed, ended | ⟨rfl, _⟩⟩ := isLine
  · have noFeeds : '\n' ∉ markText mark text ++ content := by simp [unmarked, noFeed]
    have rendered : renderLine (mark, text) ++ rest =
        (markText mark text ++ content) ++ '\n' :: rest := by
      simp [renderLine, show text.getLast? = some '\n' by simp [ended]]
      simp [ended]
    rw [rendered, lines_feed noFeeds unnoted, markedLine, List.append_assoc, ← ended]
  · have noFeeds : '\n' ∉ markText mark text ++ text := by simp [unmarked, noFeed]
    have unended : text.getLast? ≠ some '\n' := fun last => noFeed (List.mem_of_getLast? last)
    rw [renderLine, if_neg unended, lines_unended noFeeds, markedLine]

/-- Marked lines are no notes, whatever they hold. -/
theorem head?_renderLines (marked : List (Mark × Text)) (unnoted : rest.head? ≠ some '\\') :
    (marked.flatMap renderLine ++ rest).head? ≠ some '\\' := by
  cases marked with
  | nil => exact unnoted
  | cons line others =>
      obtain ⟨mark, text⟩ := line
      cases mark with
      | context => by_cases empty : text = ['\n'] <;> simp [renderLine, markText, empty]
      | removed => simp [renderLine, markText]
      | added => simp [renderLine, markText]

/-- The lines of the text of a hunk are its lines with their marks, if no note follows them. -/
theorem lines_renderLines {marked : List (Mark × Text)}
    (areLines : ∀ line ∈ marked, line.2.IsLine) (unnoted : rest.head? ≠ some '\\') :
    lines (marked.flatMap renderLine ++ rest) = marked.map markedLine ++ lines rest := by
  induction marked with
  | nil => rfl
  | cons line others ih =>
      rw [List.forall_mem_cons] at areLines
      rw [List.flatMap_cons, List.append_assoc,
        lines_renderLine line.1 areLines.1 (head?_renderLines others unnoted), ih areLines.2]
      rfl

theorem not_mem_range (start length : Nat) : '\n' ∉ range start length := by
  have digits (number : Nat) : '\n' ∉ decimal number := by
    intro member
    have digit := Nat.isDigit_of_mem_toDigits (by decide) (by decide) member
    contradiction
  unfold range
  split <;> simp [digits]

/-- The lines of the text of a hunk are its header and its lines with their marks. -/
theorem lines_renderHunk {hunk : Hunk} (areLines : ∀ line ∈ hunk.lines, line.2.IsLine)
    (unnoted : rest.head? ≠ some '\\') :
    lines (renderHunk hunk ++ rest) =
      header hunk :: hunk.lines.map markedLine ++ lines rest := by
  let named : Text := "@@ -".toList ++ range hunk.oldStart hunk.oldLength ++ " +".toList ++
    range hunk.newStart hunk.newLength ++ " @@".toList
  have noFeed : '\n' ∉ named := by
    simp [named, not_mem_range]
  have headed : header hunk = named ++ ['\n'] := (List.append_assoc _ " @@".toList ['\n']).symm
  have rendered : renderHunk hunk ++ rest =
      named ++ '\n' :: (hunk.lines.flatMap renderLine ++ rest) :=
    calc renderHunk hunk ++ rest
        = header hunk ++ hunk.lines.flatMap renderLine ++ rest := rfl
      _ = named ++ '\n' :: (hunk.lines.flatMap renderLine ++ rest) := by
          rw [headed, List.append_assoc, List.append_assoc, List.singleton_append]
  rw [rendered, lines_feed noFeed (head?_renderLines hunk.lines unnoted),
    lines_renderLines areLines unnoted, headed]
  rfl

theorem head?_renderHunks (hunks : List Hunk) :
    (hunks.flatMap renderHunk).head? ≠ some '\\' := by
  cases hunks with
  | nil => exact nofun
  | cons hunk later =>
      change some '@' ≠ some '\\'
      decide

/-- The lines of the text of several hunks are those of each one in turn. -/
theorem lines_renderHunks {hunks : List Hunk}
    (areLines : ∀ hunk ∈ hunks, ∀ line ∈ hunk.lines, line.2.IsLine) :
    lines (hunks.flatMap renderHunk) =
      hunks.flatMap fun hunk => header hunk :: hunk.lines.map markedLine := by
  induction hunks with
  | nil => rfl
  | cons hunk later ih =>
      rw [List.forall_mem_cons] at areLines
      rw [List.flatMap_cons, lines_renderHunk areLines.1 (head?_renderHunks later), ih areLines.2]
      rfl

/-- The lines of a unified diff. -/
theorem lines_unified {old new : Text}
    (areLines : ∀ hunk ∈ hunks old new, ∀ line ∈ hunk.lines, line.2.IsLine) :
    lines (unified old new) = "--- original\n".toList :: "+++ modified\n".toList ::
      (hunks old new).flatMap fun hunk => header hunk :: hunk.lines.map markedLine := by
  have named : unified old new = "--- original".toList ++ '\n' ::
      ("+++ modified".toList ++ '\n' :: (hunks old new).flatMap renderHunk) := rfl
  rw [named, lines_feed (by decide) (by simp), lines_feed (by decide) (head?_renderHunks _),
    lines_renderHunks areLines]
  rfl

/-- **A unified diff, applied to the old text, gives the new one.** -/
theorem apply_unified (old new : Text) : apply (unified old new) old = some new := by
  have turns : Turns 0 0 old.endedLines (hunks old new) new.endedLines := by
    have compared := turns_ofSegments (compact (script old.endedLines new.endedLines))
    rwa [onSide_compact, onSide_compact, (onSide_script _ _).1, (onSide_script _ _).2] at compared
  have areLines : ∀ hunk ∈ hunks old new, ∀ line ∈ hunk.lines, line.2.IsLine := by
    intro hunk member line shown
    rcases turns.mem member shown with inOld | inNew
    · exact Text.isLine_of_mem_endedLines inOld
    · exact Text.isLine_of_mem_endedLines inNew
  have followed := State.foldlM_turns turns { rest := old.endedLines } ⟨rfl, rfl⟩ rfl rfl rfl
  rw [apply, lines_unified areLines]
  simp only
  rw [if_pos (by decide), followed]
  simp [Text.flatten_endedLines]

end Patch

end SourceWriter
