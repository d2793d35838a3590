import SourceWriter.Diff.Compaction
import SourceWriter.Diff.Hunk
import SourceWriter.Diff.Script
import SourceWriter.Text.Lines

/-! # Unified diffs

The text of a diff: two lines that name the sides, and then every hunk with the ranges of lines
that it replaces and is replaced by. Each line of a hunk starts with a mark.
-/

namespace SourceWriter.Diff

/-- A number in decimal digits. -/
def decimal (number : Nat) : Text :=
  Nat.toDigits 10 number

/-- A range of lines. Lines count from one, but an empty range names the line before it; the
length is left out if it is one. -/
def range (start length : Nat) : Text :=
  decimal (if length = 0 then start else start + 1) ++
    if length = 1 then [] else ',' :: decimal length

/-- What a marked line starts with. A common line that is empty has no mark. -/
def markText (mark : Mark) (line : Text) : Text :=
  match mark with
  | .context => if line = ['\n'] then [] else [' ']
  | .removed => ['-']
  | .added => ['+']

/-- What follows a line that is not ended. -/
def unendedNote : Text :=
  "\n\\ No newline at end of file\n".toList

/-- A marked line. -/
def renderLine (line : Mark × Text) : Text :=
  markText line.1 line.2 ++ line.2 ++
    if line.2.getLast? = some '\n' then [] else unendedNote

/-- The text of a hunk: its two ranges, and its lines with their marks. -/
def renderHunk (hunk : Hunk) : Text :=
  "@@ -".toList ++ range hunk.oldStart hunk.oldLength ++ " +".toList ++
    range hunk.newStart hunk.newLength ++ " @@\n".toList ++ hunk.lines.flatMap renderLine

/-- The lines that name the sides. -/
def sideNames : Text :=
  "--- original\n+++ modified\n".toList

/-- The hunks between two texts, of the compacted comparison of their lines. -/
def hunks (old new : Text) : List Hunk :=
  Hunk.ofSegments (compact (script old.endedLines new.endedLines))

/-- The unified diff from one text to another. -/
def unified (old new : Text) : Text :=
  sideNames ++ (hunks old new).flatMap renderHunk

end SourceWriter.Diff
