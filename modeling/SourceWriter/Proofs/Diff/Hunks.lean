import Mathlib.Tactic.Convert
import SourceWriter.Diff.Compaction
import SourceWriter.Diff.Hunk

/-! # Hunks that turn one side into the other

Hunks turn a list of lines into another one if each of them stands where its start says, among lines
that both lists share and that no hunk shows (`Turns`). The hunks of a comparison turn its old side
into its new one (`turns_ofSegments`).
-/

namespace SourceWriter.Diff

variable {taken given : Nat} {old new : List Text}

/-- Whether a side has the lines with this mark. -/
def Mark.isOn : Side → Mark → Bool
  | _, .context | .old, .removed | .new, .added => true
  | .old, .added | .new, .removed => false

/-- The lines that a side has among marked lines. -/
def shown (side : Side) (lines : List (Mark × Text)) : List Text :=
  (lines.filter fun line => line.1.isOn side).map Prod.snd

/-- The hunks turn the old lines into the new ones, where so many lines of either side lie before
them. -/
inductive Turns : Nat → Nat → List Text → List Hunk → List Text → Prop
  | done (taken given : Nat) (same : List Text) : Turns taken given same [] same
  | hunk {taken given : Nat} {old new : List Text} {later : List Hunk} (hunk : Hunk)
      (skipped : List Text) (oldStart : hunk.oldStart = taken + skipped.length)
      (newStart : hunk.newStart = given + skipped.length)
      (rest : Turns (hunk.oldStart + hunk.oldLength) (hunk.newStart + hunk.newLength) old later
        new) :
      Turns taken given (skipped ++ shown .old hunk.lines ++ old) (hunk :: later)
        (skipped ++ shown .new hunk.lines ++ new)

theorem shown_append (side : Side) (first second : List (Mark × Text)) :
    shown side (first ++ second) = shown side first ++ shown side second := by
  simp [shown]

theorem shown_marked (side : Side) (mark : Mark) (lines : List Text) :
    shown side (Hunk.marked mark lines) = if mark.isOn side then lines else [] := by
  cases on : mark.isOn side <;> simp [shown, Hunk.marked, List.filter_map, Function.comp_def, on]

/-- Hunks show no line that neither side has. -/
theorem Turns.mem {hunks : List Hunk} (turns : Turns taken given old hunks new) {hunk : Hunk}
    (member : hunk ∈ hunks) {line : Mark × Text} (inside : line ∈ hunk.lines) :
    line.2 ∈ old ∨ line.2 ∈ new := by
  have visible (side : Side) (on : line.1.isOn side) : line.2 ∈ shown side hunk.lines :=
    List.mem_map_of_mem (List.mem_filter.mpr ⟨inside, on⟩)
  induction turns with
  | done => cases member
  | hunk first skipped oldStart newStart rest ih =>
      rcases List.mem_cons.mp member with rfl | later
      · obtain ⟨mark, text⟩ := line
        cases mark with
        | added =>
            have onNew := visible .new rfl
            exact .inr (List.mem_append_left _ (List.mem_append_right _ onNew))
        | context | removed =>
            have onOld := visible .old rfl
            exact .inl (List.mem_append_left _ (List.mem_append_right _ onOld))
      · rcases ih later with inOld | inNew
        · exact .inl (List.mem_append_right _ inOld)
        · exact .inr (List.mem_append_right _ inNew)

/-- A hunk covers as many old lines as it shows. -/
theorem Hunk.oldLength_eq (hunk : Hunk) : hunk.oldLength = (shown .old hunk.lines).length := by
  rw [oldLength, shown, List.length_map, List.countP_eq_length_filter]
  congr 2
  funext line
  cases line.1 <;> rfl

theorem Hunk.newLength_eq (hunk : Hunk) : hunk.newLength = (shown .new hunk.lines).length := by
  rw [newLength, shown, List.length_map, List.countP_eq_length_filter]
  congr 2
  funext line
  cases line.1 <;> rfl

namespace Edit

/-- The lines that a side has in an edit and up to the next one. -/
def on (edit : Edit) : Side → List Text
  | .old => edit.removed ++ edit.kept
  | .new => edit.added ++ edit.kept

/-- An edit and the common lines after it are what a side has there. -/
theorem shown_body (edit : Edit) (side : Side) :
    shown side (Hunk.body edit) ++ edit.kept = edit.on side := by
  cases side <;> simp [Hunk.body, shown_append, shown_marked, Mark.isOn, on]

/-- Edits keep the lines of both sides. -/
theorem onSide_ofSegments (side : Side) (segments : List Segment) :
    onSide side segments =
      (ofSegments segments).1 ++ (ofSegments segments).2.flatMap fun edit => edit.on side := by
  fun_induction ofSegments segments with
  | case1 => rfl
  | case2 lines rest kept edits after ih =>
      rw [onSide_cons, ih, after]
      exact (List.append_assoc lines kept _).symm
  | case3 other lines rest next edits after ih =>
      rw [onSide_cons, ih, after, List.flatMap_cons, List.flatMap_cons]
      cases side <;> cases other <;> simp [Segment.on, on, ofSide, join]
  | case4 other lines rest kept edits _ after ih =>
      rw [onSide_cons, ih, after, List.flatMap_cons]
      cases side <;> cases other <;> simp [Segment.on, on, ofSide]

end Edit

namespace Hunk

/-- What a hunk shows of an edit that it ends with, and the common lines that it leaves. -/
theorem shown_last (side : Side) (edit : Edit) :
    edit.on side =
      shown side (body edit ++ trail edit.kept) ++ edit.kept.drop contextLength := by
  rw [← edit.shown_body, shown_append, trail, shown_marked, List.append_assoc]
  simp [Mark.isOn]

theorem shown_joined (side : Side) (edit : Edit) :
    shown side (body edit ++ marked .context edit.kept) = edit.on side := by
  rw [← edit.shown_body, shown_append, shown_marked]
  rfl

theorem shown_lead (side : Side) (kept : List Text) (lines : List (Mark × Text)) :
    shown side (lead kept ++ lines) =
      kept.drop (kept.length - contextLength) ++ shown side lines := by
  rw [shown_append, lead, shown_marked]
  rfl

/-- A hunk starts with the context before its first edit, and skips the common lines before that. -/
theorem turns_lead (kept : List Text) (lines : List (Mark × Text)) {later : List Hunk}
    (turns : Turns (taken + kept.length + (shown .old lines).length)
      (given + kept.length + (shown .new lines).length) old later new) :
    Turns taken given (kept ++ (shown .old lines ++ old))
      (⟨taken + (kept.length - contextLength), given + (kept.length - contextLength),
        lead kept ++ lines⟩ :: later)
      (kept ++ (shown .new lines ++ new)) := by
  let skipped := kept.take (kept.length - contextLength)
  have skippedLength : skipped.length = kept.length - contextLength := by
    simp only [skipped, List.length_take]
    omega
  have cut (side : Side) (others : List Text) : kept ++ (shown side lines ++ others) =
      skipped ++ shown side (lead kept ++ lines) ++ others := by
    rw [shown_lead, ← List.append_assoc skipped, List.take_append_drop, List.append_assoc]
  have length (side : Side) :
      kept.length - contextLength + (shown side (lead kept ++ lines)).length =
        kept.length + (shown side lines).length := by
    rw [shown_lead, List.length_append, List.length_drop]
    omega
  rw [cut .old, cut .new]
  apply Turns.hunk ⟨_, _, lead kept ++ lines⟩ skipped
  · rw [skippedLength]
  · rw [skippedLength]
  · rw [oldLength_eq, newLength_eq, Nat.add_assoc, length, Nat.add_assoc, length, ← Nat.add_assoc,
      ← Nat.add_assoc]
    exact turns

/-- The lines of a hunk from one of its edits on, and the hunks after it, turn these old lines into
these new ones, where so many lines of either side lie before the edit. -/
def Covers (oldBefore newBefore : Nat) (oldLines newLines : List Text)
    (split : List (Mark × Text) × List Hunk) : Prop :=
  ∃ old new, oldLines = shown .old split.1 ++ old ∧ newLines = shown .new split.1 ++ new ∧
    Turns (oldBefore + (shown .old split.1).length) (newBefore + (shown .new split.1).length) old
      split.2 new

variable {oldBefore newBefore : Nat} {oldLines newLines : List Text} {lines : List (Mark × Text)}
  {later : List Hunk} {edit : Edit}

/-- An edit that ends the last hunk leaves common lines. -/
theorem covers_last (oldBefore newBefore : Nat) (edit : Edit) :
    Covers oldBefore newBefore (edit.on .old) (edit.on .new) (body edit ++ trail edit.kept, []) :=
  ⟨_, _, shown_last .old edit, shown_last .new edit, .done _ _ _⟩

/-- An edit that is followed by another one of the same hunk. -/
theorem Covers.joined
    (covers : Covers (oldBefore + edit.removed.length + edit.kept.length)
      (newBefore + edit.added.length + edit.kept.length) oldLines newLines (lines, later)) :
    Covers oldBefore newBefore (edit.on .old ++ oldLines) (edit.on .new ++ newLines)
      (body edit ++ marked .context edit.kept ++ lines, later) := by
  obtain ⟨old, new, rfl, rfl, turns⟩ := covers
  refine ⟨old, new, ?_, ?_, ?_⟩
  · rw [shown_append, shown_joined, List.append_assoc]
  · rw [shown_append, shown_joined, List.append_assoc]
  · simpa only [shown_append _ (body edit ++ _), shown_joined, Edit.on, List.length_append,
      Nat.add_assoc] using turns

/-- An edit that is followed by one of another hunk, which skips the lines between the contexts of
both. -/
theorem Covers.apart (apart : 2 * contextLength ≤ edit.kept.length)
    (covers : Covers (oldBefore + edit.removed.length + edit.kept.length)
      (newBefore + edit.added.length + edit.kept.length) oldLines newLines (lines, later)) :
    Covers oldBefore newBefore (edit.on .old ++ oldLines) (edit.on .new ++ newLines)
      (body edit ++ trail edit.kept,
        ⟨oldBefore + edit.removed.length + edit.kept.length - contextLength,
          newBefore + edit.added.length + edit.kept.length - contextLength,
          lead edit.kept ++ lines⟩ :: later) := by
  obtain ⟨old, new, rfl, rfl, turns⟩ := covers
  refine ⟨edit.kept.drop contextLength ++ (shown .old lines ++ old),
    edit.kept.drop contextLength ++ (shown .new lines ++ new), ?_, ?_, ?_⟩
  · rw [shown_last, List.append_assoc]
  · rw [shown_last, List.append_assoc]
  · have oldLength := congrArg List.length (shown_last .old edit)
    have newLength := congrArg List.length (shown_last .new edit)
    simp only [Edit.on, List.length_append, List.length_drop] at oldLength newLength
    have restLength : (edit.kept.drop contextLength).length = edit.kept.length - contextLength :=
      List.length_drop
    have leading : lead (edit.kept.drop contextLength) = lead edit.kept := by
      rw [lead, lead, restLength, List.drop_drop]
      congr 2
      omega
    have turned : Turns
        (oldBefore + edit.removed.length + contextLength + (edit.kept.drop contextLength).length +
          (shown .old lines).length)
        (newBefore + edit.added.length + contextLength + (edit.kept.drop contextLength).length +
          (shown .new lines).length) old later new := by
      convert turns using 1 <;> (simp only; omega)
    have resumed := turns_lead (edit.kept.drop contextLength) lines turned
    rw [leading] at resumed
    convert resumed using 1
    · simp only
      omega
    · simp only
      omega
    · simp only [List.cons.injEq, mk.injEq, and_true]
      omega

/-- By induction on the edits: each of them ends a hunk or goes on with one. -/
theorem covers_splitFrom (oldTotal oldBefore newBefore : Nat) (edit : Edit) (edits : List Edit) :
    Covers oldBefore newBefore ((edit :: edits).flatMap fun edit => edit.on .old)
      ((edit :: edits).flatMap fun edit => edit.on .new)
      (splitFrom oldTotal oldBefore newBefore edit edits) := by
  induction edits generalizing edit oldBefore newBefore with
  | nil => simpa [splitFrom] using covers_last oldBefore newBefore edit
  | cons next rest ih =>
      have covers := ih (oldBefore + edit.removed.length + edit.kept.length)
        (newBefore + edit.added.length + edit.kept.length) next
      rw [List.flatMap_cons, List.flatMap_cons (f := fun edit : Edit => edit.on .new), splitFrom]
      cases following : splitFrom oldTotal (oldBefore + edit.removed.length + edit.kept.length)
        (newBefore + edit.added.length + edit.kept.length) next rest with
      | mk lines later =>
          rw [following] at covers
          simp only
          split
          · exact covers.joined
          · next apart =>
              apply covers.apart
              omega

end Hunk

/-- **The hunks of a comparison turn its old side into its new one.** -/
theorem turns_ofSegments (segments : List Segment) :
    Turns 0 0 (onSide .old segments) (Hunk.ofSegments segments) (onSide .new segments) := by
  rw [Edit.onSide_ofSegments, Edit.onSide_ofSegments, Hunk.ofSegments]
  rcases Edit.ofSegments segments with ⟨kept, _ | ⟨edit, rest⟩⟩
  · simpa using Turns.done 0 0 kept
  · obtain ⟨old, new, oldLines, newLines, turns⟩ := Hunk.covers_splitFrom
      (onSide .old segments).length kept.length kept.length edit rest
    simp only [oldLines, newLines]
    rw [← Nat.zero_add kept.length] at turns
    have first := Hunk.turns_lead kept _ turns
    simpa only [Nat.zero_add] using first

end SourceWriter.Diff
