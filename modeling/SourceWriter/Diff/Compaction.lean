import SourceWriter.Diff.Segment

/-! # Compacting a comparison

Lines that only one side has can often be placed in more than one way: if they end as the common
lines before them end, they can move up by so many lines, and down likewise. Compaction moves
each such segment up as far as it goes and then down as far as it goes, on its way past segments
of the other side, and joins it with those of its own side that it meets. First the old side is
compacted, then the new one. Both sides keep their lines (`onSide_compact`).
-/

namespace SourceWriter.Diff

/-- Puts common lines in front of segments. -/
def pushCommon (lines : List Text) (segments : List Segment) : List Segment :=
  match lines, segments with
  | [], _ => segments
  | _, .common more :: rest => .common (lines ++ more) :: rest
  | _, _ => .common lines :: segments

/-- Puts common lines behind segments that are listed from the nearest one backwards. -/
def appendCommon (lines : List Text) (segments : List Segment) : List Segment :=
  match lines, segments with
  | [], _ => segments
  | _, .common more :: rest => .common (more ++ lines) :: rest
  | _, _ => .common lines :: segments

/-- The last lines, so many of them, put first. -/
def turnDown (lines : List Text) (length : Nat) : List Text :=
  lines.drop (lines.length - length) ++ lines.take (lines.length - length)

/-- The first lines, so many of them, put last. -/
def turnUp (lines : List Text) (length : Nat) : List Text :=
  lines.drop length ++ lines.take length

/-- The lines of one segment among the segments around it. -/
structure Cursor where
  /-- The segments before it, nearest first. -/
  before : List Segment
  lines : List Text
  after : List Segment

/-- All segments around and at a cursor. -/
def Cursor.segments (side : Side) (cursor : Cursor) : List Segment :=
  cursor.before.reverse ++ .only side cursor.lines :: cursor.after

/-- How much there is to move past: every line, and every segment. -/
def bulk : List Segment → Nat
  | [] => 0
  | segment :: segments => segment.lines.length + 1 + bulk segments

/-- Moves a segment of a side up as far as it goes. -/
def slideUp (side : Side) (before : List Segment) (lines : List Text) (after : List Segment) :
    Cursor :=
  match before with
  | [] => ⟨[], lines, after⟩
  | .only other more :: rest =>
    if other = side then slideUp side rest (more ++ lines) after
    else slideUp side rest lines (.only other more :: after)
  | .common more :: rest =>
    let length := sharedEndLength more lines
    let passed := pushCommon (lines.drop (lines.length - length)) after
    if length = more.length then slideUp side rest (turnDown lines length) passed
    else if length = 0 then ⟨.common more :: rest, lines, after⟩
    else
      slideUp side (.common (more.take (more.length - length)) :: rest) (turnDown lines length)
        passed
termination_by bulk before
decreasing_by
  · rw [bulk]; omega
  · rw [bulk]; omega
  · rw [bulk]; omega
  · rename_i positive
    have bound := sharedEndLength_le_left more lines
    simp only [bulk, Segment.lines, List.length_take]
    omega

/-- Moves a segment of a side down as far as it goes. -/
def slideDown (side : Side) (before : List Segment) (lines : List Text) (after : List Segment) :
    Cursor :=
  match after with
  | [] => ⟨before, lines, []⟩
  | .only other more :: rest =>
    if other = side then slideDown side before (lines ++ more) rest
    else slideDown side (.only other more :: before) lines rest
  | .common more :: rest =>
    let length := sharedLength more lines
    let passed := appendCommon (lines.take length) before
    if length = more.length then slideDown side passed (turnUp lines length) rest
    else if length = 0 then ⟨before, lines, .common more :: rest⟩
    else slideDown side passed (turnUp lines length) (.common (more.drop length) :: rest)
termination_by bulk after
decreasing_by
  · rw [bulk]; omega
  · rw [bulk]; omega
  · rw [bulk]; omega
  · rename_i positive
    have bound := sharedLength_le_left more lines
    simp only [bulk, Segment.lines, List.length_drop]
    omega

/-- How many segments only this side has. -/
def countOnly (side : Side) (segments : List Segment) : Nat :=
  segments.countP fun segment =>
    match segment with
    | .only other _ => other = side
    | .common _ => false

theorem countOnly_common (side : Side) (lines : List Text) (segments : List Segment) :
    countOnly side (.common lines :: segments) = countOnly side segments := by
  simp [countOnly]

theorem countOnly_other {side other : Side} (different : other ≠ side) (lines : List Text)
    (segments : List Segment) :
    countOnly side (.only other lines :: segments) = countOnly side segments := by
  simp [countOnly, different]

theorem countOnly_own (side : Side) (lines : List Text) (segments : List Segment) :
    countOnly side (.only side lines :: segments) = countOnly side segments + 1 := by
  simp [countOnly]

theorem countOnly_pushCommon (side : Side) (lines : List Text) (segments : List Segment) :
    countOnly side (pushCommon lines segments) = countOnly side segments := by
  fun_cases pushCommon lines segments <;> simp [countOnly_common]

/-- Moving up leaves no segment of the own side behind. -/
theorem countOnly_slideUp (side : Side) (before : List Segment) (lines : List Text)
    (after : List Segment) :
    countOnly side (slideUp side before lines after).after = countOnly side after := by
  fun_induction slideUp side before lines after with
  | case1 => rfl
  | case2 _ _ _ _ ih => exact ih
  | case3 _ _ _ _ _ different ih => rw [ih, countOnly_other different]
  | case4 _ _ _ _ _ _ _ ih => rw [ih, countOnly_pushCommon]
  | case5 => rfl
  | case6 _ _ _ _ _ _ _ _ ih => rw [ih, countOnly_pushCommon]

/-- Moving down adds no segment of the own side. -/
theorem countOnly_slideDown_le (side : Side) (before : List Segment) (lines : List Text)
    (after : List Segment) :
    countOnly side (slideDown side before lines after).after ≤ countOnly side after := by
  fun_induction slideDown side before lines after with
  | case1 => exact Nat.le_refl _
  | case2 _ _ _ _ ih => rw [countOnly_own]; omega
  | case3 _ _ _ _ _ different ih => rwa [countOnly_other different]
  | case4 _ _ _ _ _ _ _ ih => rwa [countOnly_common]
  | case5 => exact Nat.le_refl _
  | case6 _ _ _ _ _ _ _ _ ih => rwa [countOnly_common] at ih ⊢

/-- Compacts the segments of a side among those after the ones already passed. -/
def compactFrom (side : Side) (passed segments : List Segment) : List Segment :=
  match segments with
  | [] => passed.reverse
  | .common lines :: rest => compactFrom side (.common lines :: passed) rest
  | .only other lines :: rest =>
    if other = side then
      let up := slideUp side passed lines rest
      let down := slideDown side up.before up.lines up.after
      compactFrom side (.only side down.lines :: down.before) down.after
    else compactFrom side (.only other lines :: passed) rest
termination_by (countOnly side segments, segments.length)
decreasing_by
  · rw [countOnly_common]
    exact Prod.Lex.right _ (Nat.lt_succ_self _)
  · rename_i same
    subst same
    have fewer := countOnly_slideDown_le other (slideUp other passed lines rest).before
      (slideUp other passed lines rest).lines (slideUp other passed lines rest).after
    rw [countOnly_slideUp] at fewer
    rw [countOnly_own]
    exact Prod.Lex.left _ _ (Nat.lt_succ_of_le fewer)
  · rename_i different
    rw [countOnly_other different]
    exact Prod.Lex.right _ (Nat.lt_succ_self _)

/-- Compacts the old side, then the new one. -/
def compact (segments : List Segment) : List Segment :=
  compactFrom .new [] (compactFrom .old [] segments)

@[simp] theorem onSide_pushCommon (side : Side) (lines : List Text) (segments : List Segment) :
    onSide side (pushCommon lines segments) = lines ++ onSide side segments := by
  fun_cases pushCommon lines segments <;> simp [onSide, Segment.on]

@[simp] theorem onSide_appendCommon (side : Side) (lines : List Text) (segments : List Segment) :
    onSide side (appendCommon lines segments).reverse =
      onSide side segments.reverse ++ lines := by
  fun_cases appendCommon lines segments <;> simp [onSide, Segment.on]

theorem onSide_cons (side : Side) (segment : Segment) (segments : List Segment) :
    onSide side (segment :: segments) = segment.on side ++ onSide side segments :=
  List.flatMap_cons

@[simp] theorem onSide_nil (side : Side) : onSide side [] = [] := rfl

/-- What common lines end with can be read off lines that end the same. -/
theorem take_append_sharedEnd (more lines : List Text) :
    more.take (more.length - sharedEndLength more lines) ++
      lines.drop (lines.length - sharedEndLength more lines) = more := by
  rw [← drop_sharedEndLength, List.take_append_drop]

/-- What common lines start with can be read off lines that start the same. -/
theorem sharedStart_append_drop (more lines : List Text) :
    lines.take (sharedLength more lines) ++ more.drop (sharedLength more lines) = more := by
  rw [← take_sharedLength, List.take_append_drop]

/-- Passing common lines upwards keeps the lines of both sides: what was last is now first, and
the common lines that were before are now after. -/
theorem onSide_passUp (side viewed : Side) (more lines : List Text) (before after : List Segment) :
    onSide viewed (before ++
        .common (more.take (more.length - sharedEndLength more lines)) ::
        .only side (turnDown lines (sharedEndLength more lines)) ::
        pushCommon (lines.drop (lines.length - sharedEndLength more lines)) after) =
      onSide viewed (before ++ .common more :: .only side lines :: after) := by
  have shared := take_append_sharedEnd more lines
  simp only [onSide_append, onSide_cons, onSide_pushCommon, Segment.on, turnDown]
  by_cases own : side = viewed
  · simp only [own, ↓reduceIte, List.append_assoc]
    rw [← List.append_assoc (List.take _ more), shared, ← List.append_assoc (List.take _ lines),
      List.take_append_drop]
  · simp only [own, ↓reduceIte, List.nil_append]
    rw [← List.append_assoc (List.take _ more), shared]

/-- Passing common lines downwards keeps the lines of both sides: what was first is now last, and
the common lines that were after are now before. -/
theorem onSide_passDown (side viewed : Side) (more lines : List Text)
    (before after : List Segment) :
    onSide viewed ((appendCommon (lines.take (sharedLength more lines)) before).reverse ++
        .only side (turnUp lines (sharedLength more lines)) ::
        .common (more.drop (sharedLength more lines)) :: after) =
      onSide viewed (before.reverse ++ .only side lines :: .common more :: after) := by
  have shared := sharedStart_append_drop more lines
  simp only [onSide_append, onSide_cons, onSide_appendCommon, Segment.on, turnUp]
  by_cases own : side = viewed
  · simp only [own, ↓reduceIte, List.append_assoc]
    rw [← List.append_assoc (List.take _ lines) (List.drop _ more), shared,
      ← List.append_assoc (List.take _ lines), List.take_append_drop]
  · simp only [own, ↓reduceIte, List.nil_append, List.append_assoc]
    rw [← List.append_assoc (List.take _ lines), shared]

theorem onSide_append_common_nil (side : Side) (before after : List Segment) :
    onSide side (before ++ .common [] :: after) = onSide side (before ++ after) := by
  simp [onSide_cons, Segment.on]

/-- Moving a segment up keeps the lines of both sides. -/
theorem onSide_slideUp (side viewed : Side) (before : List Segment) (lines : List Text)
    (after : List Segment) :
    onSide viewed ((slideUp side before lines after).segments side) =
      onSide viewed (before.reverse ++ .only side lines :: after) := by
  fun_induction slideUp side before lines after with
  | case1 => rfl
  | case2 lines after more rest ih =>
    rw [ih]
    by_cases own : side = viewed <;> simp [onSide_cons, Segment.on, own]
  | case3 lines after other more rest different ih =>
    rw [ih]
    by_cases own : side = viewed
    · subst own
      simp [onSide_cons, Segment.on, different]
    · simp [onSide_cons, Segment.on, own]
  | case4 lines after more rest length passed whole ih =>
    have moved := onSide_passUp side viewed more lines rest.reverse after
    rw [show more.length - sharedEndLength more lines = 0 by omega, List.take_zero,
      onSide_append_common_nil] at moved
    rw [ih, List.reverse_cons, List.append_assoc]
    exact moved
  | case5 => rfl
  | case6 lines after more rest length passed partly positive ih =>
    rw [ih, List.reverse_cons, List.reverse_cons, List.append_assoc, List.append_assoc]
    exact onSide_passUp side viewed more lines rest.reverse after

/-- Moving a segment down keeps the lines of both sides. -/
theorem onSide_slideDown (side viewed : Side) (before : List Segment) (lines : List Text)
    (after : List Segment) :
    onSide viewed ((slideDown side before lines after).segments side) =
      onSide viewed (before.reverse ++ .only side lines :: after) := by
  fun_induction slideDown side before lines after with
  | case1 => rfl
  | case2 before lines more rest ih =>
    rw [ih]
    by_cases own : side = viewed <;> simp [onSide_cons, Segment.on, own]
  | case3 before lines other more rest different ih =>
    rw [ih]
    by_cases own : side = viewed
    · subst own
      simp [onSide_cons, Segment.on, different]
    · simp [onSide_cons, Segment.on, own]
  | case4 before lines more rest length passed whole ih =>
    have moved := onSide_passDown side viewed more lines before rest
    rw [List.drop_of_length_le (Nat.le_of_eq whole.symm), List.append_cons,
      onSide_append_common_nil, ← List.append_cons] at moved
    rw [ih]
    exact moved
  | case5 => rfl
  | case6 before lines more rest length passed partly positive ih =>
    rw [ih]
    exact onSide_passDown side viewed more lines before rest

/-- Compacting one side keeps the lines of both sides. -/
theorem onSide_compactFrom (side viewed : Side) (passed segments : List Segment) :
    onSide viewed (compactFrom side passed segments) =
      onSide viewed (passed.reverse ++ segments) := by
  fun_induction compactFrom side passed segments with
  | case1 passed => simp
  | case2 passed lines rest ih => simp [ih]
  | case3 passed lines rest up down ih =>
    rw [ih, List.reverse_cons, ← List.append_cons]
    exact (onSide_slideDown side viewed up.before up.lines up.after).trans
      (onSide_slideUp side viewed passed lines rest)
  | case4 passed other lines rest different ih => simp [ih]

/-- Compaction keeps the lines of both sides. -/
theorem onSide_compact (side : Side) (segments : List Segment) :
    onSide side (compact segments) = onSide side segments := by
  simp [compact, onSide_compactFrom]

end SourceWriter.Diff
