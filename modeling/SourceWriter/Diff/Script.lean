import SourceWriter.Diff.Snake

/-! # Comparing two lists of lines

What both sides share at their start and at their end is common. The rest is cut in two in the
middle of a shortest way, and each part is compared on its own. Whatever the cuts, the segments
have the lines of both sides (`onSide_script`).
-/

namespace SourceWriter.Diff

/-- Two lists of lines without what they share at their ends. -/
structure Trimmed where
  head : List Text
  old : List Text
  new : List Text
  tail : List Text

/-- Takes off what two lists share at their start, and then at their end. -/
def trim (old new : List Text) : Trimmed :=
  let head := sharedLength old new
  let tail := sharedEndLength (old.drop head) (new.drop head)
  { head := old.take head
    old := (old.drop head).take ((old.drop head).length - tail)
    new := (new.drop head).take ((new.drop head).length - tail)
    tail := (old.drop head).drop ((old.drop head).length - tail) }

namespace Trimmed

/-- What a side has between the ends that are shared. -/
def middle (trimmed : Trimmed) : Side → List Text
  | .old => trimmed.old
  | .new => trimmed.new

/-- All lines of a side: the shared ends, and what it has between them. -/
def onSide (trimmed : Trimmed) (side : Side) : List Text :=
  trimmed.head ++ trimmed.middle side ++ trimmed.tail

end Trimmed

/-- The old lines are the shared ends and the old lines between them. -/
theorem onSide_old_trim (old new : List Text) : (trim old new).onSide .old = old := by
  simp only [Trimmed.onSide, Trimmed.middle, trim]
  rw [List.append_assoc, List.take_append_drop, List.take_append_drop]

/-- The new lines too are the shared ends, which were read off the old lines, and the new lines
between them. -/
theorem onSide_new_trim (old new : List Text) : (trim old new).onSide .new = new := by
  simp only [Trimmed.onSide, Trimmed.middle, trim]
  rw [drop_sharedEndLength (old.drop _) (new.drop _), take_sharedLength old new,
    List.append_assoc, List.take_append_drop, List.take_append_drop]

theorem length_trim_old_le (old new : List Text) : (trim old new).old.length ≤ old.length := by
  simp only [trim, List.length_take, List.length_drop]
  omega

theorem length_trim_new_le (old new : List Text) : (trim old new).new.length ≤ new.length := by
  simp only [trim, List.length_take, List.length_drop]
  omega

/-- Whether both parts of a cut are smaller than the whole. -/
def Point.IsInside (point : Point) (old new : List Text) : Prop :=
  point.x ≤ old.length ∧ point.y ≤ new.length ∧ 0 < point.x + point.y ∧
    point.x + point.y < old.length + new.length

instance (point : Point) (old new : List Text) : Decidable (point.IsInside old new) :=
  inferInstanceAs (Decidable (_ ∧ _ ∧ _ ∧ _))

/-- The point to cut a comparison at, if both sides have lines. -/
def cutInside (old new : List Text) : Option { point : Point // point.IsInside old new } :=
  if old.isEmpty || new.isEmpty then none
  else
    match cut old new with
    | some point => if inside : point.IsInside old new then some ⟨point, inside⟩ else none
    | none => none

/-- The segments of a comparison. -/
def script (old new : List Text) : List Segment :=
  let trimmed := trim old new
  let middle :=
    match cutInside trimmed.old trimmed.new with
    | some ⟨point, _⟩ =>
      script (trimmed.old.take point.x) (trimmed.new.take point.y) ++
        script (trimmed.old.drop point.x) (trimmed.new.drop point.y)
    | none => onlyUnlessEmpty .old trimmed.old ++ onlyUnlessEmpty .new trimmed.new
  commonUnlessEmpty trimmed.head ++ middle ++ commonUnlessEmpty trimmed.tail
termination_by old.length + new.length
decreasing_by
  all_goals
    rename_i inside
    obtain ⟨_, _, _, _⟩ : point.IsInside (trim old new).old (trim old new).new := inside
    have oldLength := length_trim_old_le old new
    have newLength := length_trim_new_le old new
    simp only [List.length_take, List.length_drop]
    omega

/-- The segments of a comparison have the lines of both sides. -/
theorem onSide_script (old new : List Text) :
    onSide .old (script old new) = old ∧ onSide .new (script old new) = new := by
  fun_induction script old new with
  | case1 old new trimmed middle first second =>
    have sides : onSide .old middle = trimmed.old ∧ onSide .new middle = trimmed.new := by
      simp only [middle]
      split
      · rename_i point inside _
        simp [first point inside, second point inside]
      · simp
    constructor
    · simpa [Trimmed.onSide, Trimmed.middle, sides.1] using onSide_old_trim old new
    · simpa [Trimmed.onSide, Trimmed.middle, sides.2] using onSide_new_trim old new

end SourceWriter.Diff
