import SourceWriter.Diff.Segment

/-! # Where to cut a comparison in two

A point counts the lines of both sides that lie before it. From a point one can step right, over
an old line, or down, over a new line, and then slide along a snake of common lines. The search
takes one step more at a time, from the first point forward and from the last one backward, and
keeps for each number of steps the farthest points, one for each diagonal, from the topmost
diagonal down. The two searches meet in the middle of a shortest way, and the snake at which they
first do so is where the comparison is cut.
-/

namespace SourceWriter.Diff

/-- A position in a comparison. -/
structure Point where
  /-- How many old lines lie before it. -/
  x : Nat
  /-- How many new lines lie before it. -/
  y : Nat
  deriving DecidableEq

/-- A point that a search has reached, with the lines of both sides after it. -/
structure Position where
  point : Point
  old : List Text
  new : List Text

/-- A run of common lines. -/
structure Snake where
  start : Position
  stop : Position

namespace Position

/-- One old line further, which is then removed. -/
def right (position : Position) : Position :=
  ⟨⟨position.point.x + 1, position.point.y⟩, position.old.tail, position.new⟩

/-- One new line further, which is then added. -/
def down (position : Position) : Position :=
  ⟨⟨position.point.x, position.point.y + 1⟩, position.old, position.new.tail⟩

/-- The position after all common lines from a point on. -/
def slideFrom (point : Point) : List Text → List Text → Position
  | first :: olds, second :: news =>
    if first = second then slideFrom ⟨point.x + 1, point.y + 1⟩ olds news
    else ⟨point, first :: olds, second :: news⟩
  | olds, news => ⟨point, olds, news⟩

/-- The common lines from a position on. -/
def slide (position : Position) : Snake :=
  ⟨position, slideFrom position.point position.old position.new⟩

/-- One step from the farther of two neighbouring diagonals: down from the upper one, or right
from the lower one. -/
def stepBetween (upper lower : Position) : Position :=
  if lower.point.x < upper.point.x then upper.down else lower.right

/-- One step from each diagonal below the first, and from the last one down. -/
def stepsBelow (upper : Position) : List Position → List Position
  | [] => [upper.down]
  | lower :: rest => stepBetween upper lower :: stepsBelow lower rest

/-- One step on from the farthest positions. -/
def steps : List Position → List Position
  | [] => []
  | first :: rest => first.right :: stepsBelow first rest

end Position

/-- The first snake that reaches the farthest point of the opposite search on its diagonal.
Diagonals are counted from opposite corners, so the opposite list is read upwards, and `shift`
lines up the two. -/
def meeting (oldLength : Nat) (shift : Int) (snakes opposite : List Snake) : Option Snake :=
  let pairs := (snakes.drop (-shift).toNat).zip (opposite.reverse.drop shift.toNat)
  (pairs.find? fun pair => oldLength ≤ pair.1.stop.point.x + pair.2.stop.point.x).map Prod.fst

/-- The search for a point to cut at, between so many old and new lines and for so many more
steps. The forward search looks for a meeting if the sides differ by an odd number of lines, the
backward search if by an even one. -/
def searchCut (oldLength newLength : Nat) :
    Nat → List Position → List Position → List Snake → Option Point
  | 0, _, _, _ => none
  | fuel + 1, forwardStarts, backwardStarts, previousBackward =>
    let delta : Int := oldLength - newLength
    let forward := forwardStarts.map Position.slide
    let backward := backwardStarts.map Position.slide
    let found :=
      if delta % 2 = 0 then
        (meeting oldLength (delta / 2) backward forward).map fun snake =>
          ⟨oldLength - snake.stop.point.x, newLength - snake.stop.point.y⟩
      else
        (meeting oldLength ((delta - 1) / 2) forward previousBackward).map fun snake =>
          snake.start.point
    match found with
    | some point => some point
    | none =>
      searchCut oldLength newLength fuel (Position.steps (forward.map Snake.stop))
        (Position.steps (backward.map Snake.stop)) backward

/-- The point at which a comparison is cut in two, in the middle of a shortest way. -/
def cut (old new : List Text) : Option Point :=
  searchCut old.length new.length (old.length + new.length + 1) [⟨⟨0, 0⟩, old, new⟩]
    [⟨⟨0, 0⟩, old.reverse, new.reverse⟩] []

end SourceWriter.Diff
