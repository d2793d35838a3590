import SourceWriter.Text.Basic

/-! # Segments

Two lists of lines are compared by cutting them into segments: lines that both have, and lines
that only one of them has. The segments of a comparison determine both lists (`onSide`).
-/

namespace SourceWriter.Diff

/-- The two lists that are compared. -/
inductive Side where
  | old
  | new
  deriving DecidableEq

/-- Consecutive lines of a comparison. -/
inductive Segment where
  | common (lines : List Text)
  | only (side : Side) (lines : List Text)
  deriving DecidableEq

/-- How many elements two lists share at their starts. -/
def sharedLength {α : Type} [DecidableEq α] : List α → List α → Nat
  | first :: firsts, second :: seconds =>
    if first = second then sharedLength firsts seconds + 1 else 0
  | _, _ => 0

/-- The elements that two lists share at their starts are the same. -/
theorem take_sharedLength {α : Type} [DecidableEq α] (firsts seconds : List α) :
    firsts.take (sharedLength firsts seconds) = seconds.take (sharedLength firsts seconds) := by
  fun_induction sharedLength firsts seconds with
  | case1 first firsts seconds ih => simp [ih]
  | case2 => simp
  | case3 => simp

theorem sharedLength_le_left {α : Type} [DecidableEq α] (firsts seconds : List α) :
    sharedLength firsts seconds ≤ firsts.length := by
  fun_induction sharedLength firsts seconds with
  | case1 first firsts seconds ih => simpa using ih
  | case2 => simp
  | case3 => simp

/-- How many elements two lists share at their ends. -/
def sharedEndLength {α : Type} [DecidableEq α] (firsts seconds : List α) : Nat :=
  sharedLength firsts.reverse seconds.reverse

theorem sharedEndLength_le_left {α : Type} [DecidableEq α] (firsts seconds : List α) :
    sharedEndLength firsts seconds ≤ firsts.length := by
  simpa [sharedEndLength] using sharedLength_le_left firsts.reverse seconds.reverse

/-- The elements that two lists share at their ends are the same. -/
theorem drop_sharedEndLength {α : Type} [DecidableEq α] (firsts seconds : List α) :
    firsts.drop (firsts.length - sharedEndLength firsts seconds) =
      seconds.drop (seconds.length - sharedEndLength firsts seconds) := by
  have same := take_sharedLength firsts.reverse seconds.reverse
  rwa [List.take_reverse, List.take_reverse, List.reverse_inj] at same

namespace Segment

/-- The lines of a segment, whichever side they are on. -/
def lines : Segment → List Text
  | .common lines => lines
  | .only _ lines => lines

/-- The lines that a side has in a segment. -/
def on (side : Side) : Segment → List Text
  | .common lines => lines
  | .only other lines => if other = side then lines else []

end Segment

/-- The lines that a side has in several segments. -/
def onSide (side : Side) (segments : List Segment) : List Text :=
  segments.flatMap (Segment.on side)

@[simp] theorem onSide_append (side : Side) (first second : List Segment) :
    onSide side (first ++ second) = onSide side first ++ onSide side second :=
  List.flatMap_append

/-- Lines of both sides, if there are any. -/
def commonUnlessEmpty (lines : List Text) : List Segment :=
  if lines.isEmpty then [] else [.common lines]

@[simp] theorem onSide_commonUnlessEmpty (side : Side) (lines : List Text) :
    onSide side (commonUnlessEmpty lines) = lines := by
  cases lines <;> simp [commonUnlessEmpty, onSide, Segment.on]

/-- Lines of one side, if there are any. -/
def onlyUnlessEmpty (side : Side) (lines : List Text) : List Segment :=
  if lines.isEmpty then [] else [.only side lines]

@[simp] theorem onSide_onlyUnlessEmpty (side other : Side) (lines : List Text) :
    onSide side (onlyUnlessEmpty other lines) = if other = side then lines else [] := by
  cases lines <;> simp [onlyUnlessEmpty, onSide, Segment.on]

end SourceWriter.Diff
