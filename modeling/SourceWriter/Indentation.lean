import SourceWriter.Options

/-! # Indentation

An indentation is given as a number of levels, or as whitespace to match: each tab is a level,
and each space is the part of a level that the width makes it. Levels are therefore fractions,
and they are exact here. Going back, `Options.indentation` is the whitespace of a level: its
whole units, and then the part of a unit nearest to the rest, or with tabs one more tab for more
than half a level.
-/

namespace SourceWriter

/-- By how much to indent. -/
inductive Indentation where
  /-- By a number of levels. -/
  | level (levels : Int)
  /-- By as much as this whitespace. -/
  | text (whitespace : Text)
  deriving DecidableEq

/-- The depth that an accepted indentation stands for. -/
inductive Depth where
  | whole (levels : Nat)
  | mixed (tabs spaces : Nat)
  deriving DecidableEq

namespace Indentation

/-- A count of levels, which is held up to the largest signed number of 64 bits. -/
def ofCount (count : Nat) : Indentation :=
  .level (min count (Nat.pow 2 63 - 1))

/-- The depth of an indentation. Numbers are checked for their size, texts for their
characters. -/
def depth : Indentation → Except Error Depth
  | .level levels =>
    if levels < 0 then .error (.negativeLevel levels)
    else if (maxLevel : Int) < levels then .error (.levelTooLarge levels)
    else .ok (.whole levels.toNat)
  | .text whitespace =>
    if whitespace.all (fun character => character = ' ' || character = '\t') then
      .ok (.mixed (whitespace.count '\t') (whitespace.count ' '))
    else .error (.invalidIndentationText whitespace)

end Indentation

namespace Depth

/-- The number of levels of a depth, exactly. A space is the part of a level that the width makes
it. -/
def level (width : Nat) : Depth → Rat
  | .whole levels => levels
  | .mixed tabs spaces => tabs + spaces / width

/-- The level of a depth as a binary floating point number of 64 bits. -/
def binary64 (width : Nat) : Depth → Float
  | .whole levels => Float.ofNat levels
  | .mixed tabs spaces => Float.ofNat tabs + Float.ofNat spaces / Float.ofNat width

end Depth

namespace Options

/-- The nearest whole number, the upper one of two equally near. -/
def roundHalfUp (number : Rat) : Nat :=
  (number + 1 / 2).floor.toNat

/-- The whitespace that indents by a level. -/
def indentation (options : Options) (level : Rat) : Text :=
  let fraction := level - level.floor
  (List.replicate level.floor.toNat options.unit).flatten ++
    if options.tabs then if 1 / 2 < fraction then options.unit else []
    else options.unit.take (roundHalfUp (options.unit.length * fraction))

end Options

end SourceWriter
