import SourceWriter.Proofs.Writer.Levels

/-! # Balanced levels

A block raises the level and lowers it again, hanging indentation puts back what it found, and a
queued level takes the place of the current one at the next line break, whatever scopes have been
entered until then. A program that sets no level of its own leaves both as they were, provided that
none was queued where it began (`Program.levels_run_of_reachable`). The proviso is what keeps a
block from lowering a level that it did not raise: where none is queued, only hanging indentation
queues one, and that is gone at the end of its body.
-/

namespace SourceWriter

namespace Writer

/-- The level of the lines to come, and the one that is queued. -/
def levels (writer : Writer) : Rat × Option Rat :=
  (writer.level, writer.queued)

/-- Neither level is below zero. -/
structure LevelsNonneg (writer : Writer) : Prop where
  level : 0 ≤ writer.level
  queued : ∀ level ∈ writer.queued, 0 ≤ level

end Writer

theorem Marks.levels_eq {before after : Writer} (marks : Marks before after)
    (unqueued : before.queued = none) : after.levels = before.levels := by
  rcases marks.levels_cases with ⟨level, queued⟩ | ⟨level, queued⟩
  · rw [Writer.levels, Writer.levels, level, queued]
  · rw [Writer.levels, Writer.levels, level, queued, unqueued, Option.getD_none]

namespace Writer

/-- The end of a block takes back what its start added. -/
theorem levels_leaveBlock {writer : Writer} {level : Rat} (nonneg : 0 ≤ level)
    (raised : writer.levels = (level + 1, none)) : writer.leaveBlock.levels = (level, none) := by
  obtain ⟨levelRaised, unqueued⟩ : writer.level = level + 1 ∧ writer.queued = none := by
    simpa [levels] using raised
  have lowered : (if 1 < writer.level then writer.level - 1 else 0) = level := by
    rw [levelRaised]
    split
    · exact add_sub_cancel_right level 1
    · linarith
  exact Prod.ext lowered unqueued

end Writer

namespace Scope

variable {scope : Scope} {writer : Writer}

/-- A block raises the level by one, and nothing is queued in it. -/
theorem levels_enter (block : scope.isBlock = true) (unqueued : writer.queued = none) :
    (scope.enter writer).levels = (writer.level + 1, none) := by
  obtain ⟨started, spelled, entered⟩ := exists_spells_enter block writer
  obtain ⟨level, queued⟩ : started.level = writer.level ∧ started.queued = none := by
    simpa [Writer.levels, unqueued] using spelled.marks.levels_eq unqueued
  rw [entered, Writer.levels, Writer.raised, level, queued]

/-- The end of a block takes back the level that its start added. -/
theorem levels_leave (block : scope.isBlock = true) (entry : Writer) {finished : Writer}
    {level : Rat} (nonneg : 0 ≤ level) (raised : finished.levels = (level + 1, none)) :
    (scope.leave entry finished).levels = (level, none) := by
  have lowered := Writer.levels_leaveBlock nonneg raised
  have closed : finished.closeBrace.levels = (level, none) := by
    rw [finished.marks_closeBrace.levels_eq (congrArg Prod.snd lowered), lowered]
  cases scope with
  | block => exact closed
  | inlineBlock => exact closed
  | indentBlock =>
      rcases leave_indentBlock_cases entry finished with ⟨left, _⟩ | ⟨left, _⟩
      · rw [left, lowered]
      · rw [left]
        exact lowered
  | hanging => contradiction
  | aside => contradiction

/-- A scope keeps the levels if its body does. Hanging indentation and asides need not ask for that:
they put back what they found. -/
theorem levels_around (scope : Scope) (nonneg : 0 ≤ writer.level) (unqueued : writer.queued = none)
    {finished : Writer}
    (body : scope.isBlock = true → finished.levels = (scope.enter writer).levels) :
    (scope.leave writer finished).levels = writer.levels := by
  by_cases block : scope.isBlock = true
  · have raised : finished.levels = (writer.level + 1, none) :=
      (body block).trans (levels_enter block unqueued)
    calc
      (scope.leave writer finished).levels = (writer.level, none) :=
        levels_leave block writer nonneg raised
      _ = writer.levels := by rw [Writer.levels, unqueued]
  · cases scope with
    | hanging => rfl
    | aside => rfl
    | _ => exact absurd rfl block

end Scope

namespace Action

/-- An action that sets no level leaves both as they are where none is queued. -/
theorem levels_run {action : Action} (unset : action.setsLevel = false) {writer : Writer}
    (nonneg : 0 ≤ writer.level) (unqueued : writer.queued = none) :
    (action.run writer).levels = writer.levels := by
  by_cases noBlock : action = .emptyBlock
  · subst noBlock
    exact Scope.block.levels_around nonneg unqueued fun _ => rfl
  · exact (spells_run unset noBlock writer).marks.levels_eq unqueued

end Action

/-- What programs come by are no levels below zero. -/
theorem Writer.Reachable.levelsNonneg {writer : Writer} (reachable : writer.Reachable) :
    writer.LevelsNonneg := by
  have inSpaces := reachable.levelsInSpaces
  exact ⟨inSpaces.level.nonneg, fun level queued => (inSpaces.queued level queued).nonneg⟩

namespace Program

/-- Whether a program sets or queues a level anywhere. -/
def setsLevel : Program → Bool
  | .done => false
  | .act action rest => action.setsLevel || rest.setsLevel
  | .within _ body rest => body.setsLevel || rest.setsLevel

/-- A program that sets no level leaves both as they are where none is queued. -/
theorem levels_run {program : Program} (unset : program.setsLevel = false) {writer : Writer}
    (nonneg : 0 ≤ writer.level) (unqueued : writer.queued = none) :
    (program.run writer).levels = writer.levels := by
  induction program generalizing writer with
  | done => rfl
  | act action rest ih =>
      obtain ⟨actionUnset, restUnset⟩ := Bool.or_eq_false_iff.mp unset
      have kept := Action.levels_run actionUnset nonneg unqueued
      obtain ⟨level, queued⟩ := Prod.mk.inj kept
      calc
        (rest.run (action.run writer)).levels = (action.run writer).levels :=
          ih restUnset (level ▸ nonneg) (queued ▸ unqueued)
        _ = writer.levels := kept
  | within scope body rest body_ih rest_ih =>
      obtain ⟨bodyUnset, restUnset⟩ := Bool.or_eq_false_iff.mp unset
      have kept :
          (scope.leave writer (body.run (scope.enter writer))).levels = writer.levels := by
        apply scope.levels_around nonneg unqueued
        intro block
        -- In a block nothing is queued either, so that the same holds of its body.
        obtain ⟨level, queued⟩ := Prod.mk.inj (Scope.levels_enter block unqueued)
        have higher : 0 ≤ (scope.enter writer).level := by
          rw [level]
          exact add_nonneg nonneg zero_le_one
        exact body_ih bodyUnset higher queued
      obtain ⟨level, queued⟩ := Prod.mk.inj kept
      calc
        (rest.run (scope.leave writer (body.run (scope.enter writer)))).levels =
            (scope.leave writer (body.run (scope.enter writer))).levels :=
          rest_ih restUnset (level ▸ nonneg) (queued ▸ unqueued)
        _ = writer.levels := kept

/-- **Levels are balanced.** Where no level is queued, a program that neither sets nor queues one
leaves the pair of levels as it was. -/
theorem levels_run_of_reachable {writer : Writer} (reachable : writer.Reachable)
    (unqueued : writer.queued = none) {program : Program} (unset : program.setsLevel = false) :
    ((program.run writer).level, (program.run writer).queued) = (writer.level, writer.queued) :=
  levels_run unset reachable.levelsNonneg.level unqueued

/-- Hanging indentation in the body of a block: the line break that is owed there puts the queued
level in force before the first brace of the hanging body. -/
theorem levels_run_of_reachable_in_block :
    let before : Program :=
      .act (.setLevel (.text [' ', ' ']))
        (.within .block (.within .indentBlock (.act (.write ['a']) .done) .done) .done)
    let writer := Writer.atEnd { options := {} } ((before.trace { options := {} }).take 5)
    let body : Program :=
      .within .block (.act (.write ['x', '\n', 'y']) .done)
        (.within .inlineBlock (.within .hanging (.act .newLine .done) .done) .done)
    let program : Program := .within .hanging body (.act .emptyBlock .done)
    writer.Reachable ∧ writer.owesLine = true ∧ writer.level = 3 / 2 ∧ writer.queued = none ∧
      (body.run (Scope.hanging.enter writer)).level ≠ writer.level ∧
      program.setsLevel = false ∧
      ((program.run writer).level, (program.run writer).queued) =
        (writer.level, writer.queued) := by
  intro before writer body program
  have created : Writer.new {} = .ok { options := {} } := rfl
  have reachable : writer.Reachable := .atEnd created (List.take_prefix 5 (before.trace _))
  have owes : writer.owesLine = true := by decide +kernel
  have level : writer.level = 3 / 2 := by decide +kernel
  have unqueued : writer.queued = none := by decide +kernel
  have other : (body.run (Scope.hanging.enter writer)).level ≠ writer.level := by decide +kernel
  have unset : program.setsLevel = false := rfl
  exact ⟨reachable, owes, level, unqueued, other, unset,
    levels_run_of_reachable reachable unqueued unset⟩

-- With a level queued, the block lowers the level that it has put in force.
example :
    let writer : Writer := { options := {}, level := 5, queued := some 0 }
    (writer.emptyBlock.level, writer.emptyBlock.queued) = (0, none) := by
  decide +kernel

end Program

end SourceWriter
