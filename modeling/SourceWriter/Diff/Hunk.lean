import SourceWriter.Diff.Segment

/-! # Hunks

An edit replaces old lines by new ones; between two edits there are common lines. Edits that are
close together share a hunk, with all common lines between them, and each hunk has up to three
common lines of context at its start and at its end.
-/

namespace SourceWriter.Diff

/-- A replacement, and the common lines up to the next one. -/
structure Edit where
  removed : List Text
  added : List Text
  kept : List Text
  deriving DecidableEq

namespace Edit

/-- Lines that are removed if they are old, and added if they are new. -/
def ofSide : Side → List Text → Edit
  | .old, lines => ⟨lines, [], []⟩
  | .new, lines => ⟨[], lines, []⟩

/-- Two edits with nothing between them are one. -/
def join (first next : Edit) : Edit :=
  ⟨first.removed ++ next.removed, first.added ++ next.added, next.kept⟩

/-- The common lines at the start of a comparison, and the edits that follow. Segments of one side
that are next to each other make up one edit. -/
def ofSegments : List Segment → List Text × List Edit
  | [] => ([], [])
  | .common lines :: rest =>
    let (kept, edits) := ofSegments rest
    (lines ++ kept, edits)
  | .only side lines :: rest =>
    match ofSegments rest with
    | ([], next :: edits) => ([], (ofSide side lines).join next :: edits)
    | (kept, edits) => ([], { ofSide side lines with kept } :: edits)

end Edit

/-- What a line of a hunk is. -/
inductive Mark where
  | context
  | removed
  | added
  deriving DecidableEq

/-- Neighbouring edits with their context. -/
structure Hunk where
  /-- How many old lines lie before it. -/
  oldStart : Nat
  /-- How many new lines lie before it. -/
  newStart : Nat
  lines : List (Mark × Text)
  deriving DecidableEq

namespace Hunk

/-- How many old lines a hunk covers. -/
def oldLength (hunk : Hunk) : Nat :=
  hunk.lines.countP fun line => line.1 ≠ .added

/-- How many new lines a hunk covers. -/
def newLength (hunk : Hunk) : Nat :=
  hunk.lines.countP fun line => line.1 ≠ .removed

/-- How many common lines are shown around an edit. -/
def contextLength : Nat := 3

/-- Lines with the same mark. -/
def marked (mark : Mark) (lines : List Text) : List (Mark × Text) :=
  lines.map fun line => (mark, line)

/-- The context that ends right before an edit. -/
def lead (kept : List Text) : List (Mark × Text) :=
  marked .context (kept.drop (kept.length - contextLength))

/-- The context that starts right after an edit. -/
def trail (kept : List Text) : List (Mark × Text) :=
  marked .context (kept.take contextLength)

/-- The lines of an edit, the old ones first. -/
def body (edit : Edit) : List (Mark × Text) :=
  marked .removed edit.removed ++ marked .added edit.added

/-- The lines of a hunk from one of its edits on, and the hunks after it, where so many old and
new lines lie before the edit. The next edit belongs to the same hunk if fewer lines than the
context of both would be skipped; an edit after the last old line counts as one line nearer. -/
def splitFrom (oldTotal oldBefore newBefore : Nat) (edit : Edit) :
    List Edit → List (Mark × Text) × List Hunk
  | [] => (body edit ++ trail edit.kept, [])
  | next :: rest =>
    let oldEnd := oldBefore + edit.removed.length
    let oldNext := oldEnd + edit.kept.length
    let newNext := newBefore + edit.added.length + edit.kept.length
    let (lines, later) := splitFrom oldTotal oldNext newNext next rest
    if min oldNext (oldTotal - 1) < oldEnd + 2 * contextLength then
      (body edit ++ marked .context edit.kept ++ lines, later)
    else
      (body edit ++ trail edit.kept,
        ⟨oldNext - contextLength, newNext - contextLength, lead edit.kept ++ lines⟩ :: later)

/-- The hunks of a comparison. -/
def ofSegments (segments : List Segment) : List Hunk :=
  match Edit.ofSegments segments with
  | (_, []) => []
  | (kept, edit :: rest) =>
    let (lines, later) :=
      splitFrom (onSide .old segments).length kept.length kept.length edit rest
    ⟨kept.length - contextLength, kept.length - contextLength, lead kept ++ lines⟩ :: later

end Hunk

end SourceWriter.Diff
