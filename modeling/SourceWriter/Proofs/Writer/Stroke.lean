import Mathlib.Logic.Relation
import SourceWriter.Proofs.Writer.History
import SourceWriter.Proofs.Writer.Spelling

/-! # What writing consists of

Whatever is done with a writer is a sequence of strokes of four kinds: a line break, a part of one
line, a line break put off until later, and a change of the levels. What every stroke keeps, every
action, every scope and every program keeps (`Program.strokes_trace`). Strokes of the first two
kinds are marks: they are all that writing takes outside of scopes (`Action.spells_run`), and what
they do to the levels is known (`Marks.levels_cases`).
-/

namespace SourceWriter

/-- The single changes that all writing is made of. -/
inductive Stroke : Writer → Writer → Prop where
  /-- A line break, which is then no longer owed. -/
  | newLine (writer : Writer) : Stroke writer writer.newLine
  /-- A part of one line, where no line break is owed. -/
  | put {writer : Writer} (settled : writer.owesLine = false) {part : Text}
      (noFeed : '\n' ∉ part) : Stroke writer (writer.put part)
  /-- A line break that is owed, where the text ends in none. -/
  | owe {writer : Writer} (unended : writer.endsLine = false) :
      Stroke writer { writer with owesLine := true }
  /-- Other levels, or the start or end of a block. -/
  | arrange (writer : Writer) (level : Rat) (queued : Option Rat) (onFirstLine : Bool) :
      Stroke writer { writer with level, queued, onFirstLine }

/-- Any number of strokes. -/
abbrev Strokes : Writer → Writer → Prop :=
  Relation.ReflTransGen Stroke

/-- Strokes that leave characters behind. -/
inductive Mark : Writer → Writer → Prop where
  | newLine (writer : Writer) : Mark writer writer.newLine
  | put {writer : Writer} (settled : writer.owesLine = false) {part : Text}
      (noFeed : '\n' ∉ part) : Mark writer (writer.put part)

/-- Any number of marks. -/
abbrev Marks : Writer → Writer → Prop :=
  Relation.ReflTransGen Mark

/-- The options never change. -/
theorem Strokes.options_eq {before after : Writer} (strokes : Strokes before after) :
    after.options = before.options := by
  induction strokes with
  | refl => rfl
  | tail _ last ih =>
      rw [← ih]
      cases last with
      | newLine => rfl
      | put => exact (Writer.put_frame _ _).1
      | owe => rfl
      | arrange => rfl

namespace Marks

variable {before after : Writer}

theorem strokes (marks : Marks before after) : Strokes before after := by
  induction marks with
  | refl => exact .refl
  | tail _ last ih =>
      cases last with
      | newLine => exact ih.tail (.newLine _)
      | put settled noFeed => exact ih.tail (.put settled noFeed)

/-- Marks leave the levels as they are, or put a queued level in force. -/
theorem levels_cases (marks : Marks before after) :
    (after.level = before.level ∧ after.queued = before.queued) ∨
      (after.level = before.queued.getD before.level ∧ after.queued = none) := by
  induction marks with
  | refl => exact .inl ⟨rfl, rfl⟩
  | @tail middle _ _ last ih =>
      cases last with
      | newLine =>
          rcases ih with ⟨level, queued⟩ | ⟨level, queued⟩
          · refine .inr ⟨?_, rfl⟩
            rw [← level, ← queued]
            rfl
          · refine .inr ⟨?_, rfl⟩
            -- Nothing is queued any more, so that another line break keeps the level.
            calc middle.newLine.level
                = middle.queued.getD middle.level := rfl
              _ = before.queued.getD before.level := by rw [queued, Option.getD_none, level]
      | put =>
          obtain ⟨_, level, queued, _⟩ := Writer.put_frame _ _
          rwa [level, queued]

/-- After a mark no line break is owed. -/
theorem eq_or_settled (marks : Marks before after) : after = before ∨ after.owesLine = false := by
  cases marks with
  | refl => exact .inl rfl
  | tail _ last =>
      refine .inr ?_
      cases last with
      | newLine => rfl
      | put settled =>
          obtain ⟨_, _, _, owes⟩ := Writer.put_frame _ _
          rw [owes, settled]

end Marks

/-- What is spelled out leaves marks. -/
theorem Spells.marks {parts : List Text} {before after : Writer}
    (spelled : Spells parts before after) : Marks before after := by
  induction spelled with
  | nothing => exact .refl
  | newLine _ ih => exact ih.tail (.newLine _)
  | put _ settled noFeed ih => exact ih.tail (.put settled noFeed)

namespace Writer

theorem marks_newLine (writer : Writer) : Marks writer writer.newLine :=
  writer.spells_newLine.marks

theorem marks_write (writer : Writer) (text : Text) : Marks writer (writer.write text) :=
  (writer.spells_write text).marks

theorem marks_closeBrace (writer : Writer) : Marks writer.leaveBlock writer.closeBrace :=
  writer.spells_closeBrace.marks

/-- Setting a level, even one that is refused, changes no more than the level. -/
theorem run_setLevel (writer : Writer) (indentation : Indentation) :
    ∃ level, (Action.setLevel indentation).run writer = { writer with level } := by
  simp only [Action.run, setLevel]
  cases indentation.depth with
  | error _ => exact ⟨writer.level, rfl⟩
  | ok depth => exact ⟨_, rfl⟩

/-- Queueing a level, even one that is refused, changes no more than the queued level. -/
theorem run_queueLevel (writer : Writer) (indentation : Indentation) :
    ∃ queued, (Action.queueLevel indentation).run writer = { writer with queued } := by
  simp only [Action.run, queueLevel]
  cases indentation.depth with
  | error _ => exact ⟨writer.queued, rfl⟩
  | ok depth => exact ⟨_, rfl⟩

/-- The writer at the start of the lines of a block. -/
def raised (writer : Writer) : Writer :=
  { writer with level := writer.level + 1, onFirstLine := true }

/-- Entering a block spells out no part, and raises the level. -/
theorem exists_spells_enterBlock (writer : Writer) :
    ∃ started, Spells [] writer started ∧ writer.enterBlock = started.raised := by
  by_cases empty : writer.isEmpty = true
  · exact ⟨writer, .nothing writer, by simp only [enterBlock, empty, ↓reduceIte, raised]⟩
  · refine ⟨writer.newLineIfLastNot, spells_newLineIfLastNot writer, ?_⟩
    simp only [enterBlock, empty, Bool.false_eq_true, ↓reduceIte, raised]

/-- An opening brace is the part that the start of a braced block spells out. -/
theorem exists_spells_openBrace (writer : Writer) :
    ∃ started, Spells [['{']] writer started ∧ writer.openBrace = started.raised := by
  obtain ⟨started, spelled, entered⟩ := exists_spells_enterBlock (writer.settle.write ['{'])
  exact ⟨started, writer.spells_openBrace.trans spelled, entered⟩

theorem endsLine_closeBrace (writer : Writer) : writer.closeBrace.endsLine = false :=
  endsLine_append (by simp) (by simp) _

theorem strokes_leaveBlock (writer : Writer) : Strokes writer writer.leaveBlock :=
  .single (.arrange writer _ writer.queued false)

theorem strokes_closeBrace (writer : Writer) : Strokes writer writer.closeBrace :=
  (strokes_leaveBlock writer).trans (marks_closeBrace writer).strokes

end Writer

namespace Scope

/-- Whether the body of a scope is one level deeper than what is around the scope. -/
def isBlock : Scope → Bool
  | .block | .inlineBlock | .indentBlock => true
  | .hanging | .aside => false

/-- The parts of lines that a scope puts before its body. -/
def openingParts (scope : Scope) (writer : Writer) : List Text :=
  match scope with
  | .block => writer.separation ++ [['{']]
  | .inlineBlock => [['{']]
  | .indentBlock | .hanging | .aside => []

/-- The parts of lines that a scope puts after its body. -/
def closingParts : Scope → List Text
  | .block | .inlineBlock => [['}']]
  | .indentBlock | .hanging | .aside => []

/-- Before the lines of a block there is no more than what opens it. -/
theorem exists_spells_enter {scope : Scope} (block : scope.isBlock = true) (writer : Writer) :
    ∃ started, Spells (scope.openingParts writer) writer started ∧
      scope.enter writer = started.raised := by
  cases scope with
  | block =>
      obtain ⟨started, spelled, entered⟩ := writer.setOff.exists_spells_openBrace
      exact ⟨started, writer.spells_setOff.trans spelled, entered⟩
  | inlineBlock => exact writer.exists_spells_openBrace
  | indentBlock => exact writer.exists_spells_enterBlock
  | hanging => contradiction
  | aside => contradiction

/-- What comes before the body of a scope. -/
theorem enter_cases (scope : Scope) (writer : Writer) :
    (∃ started, Spells (scope.openingParts writer) writer started ∧
        scope.enter writer = started.raised) ∨
      scope.enter writer = { writer with queued := some (writer.wholeLevel + 1) } ∨
        scope.enter writer = writer := by
  by_cases block : scope.isBlock = true
  · exact .inl (exists_spells_enter block writer)
  · cases scope with
    | hanging => exact .inr (.inl rfl)
    | aside => exact .inr (.inr rfl)
    | _ => exact absurd rfl block

/-- The end of an indent block asks whether the text ends in a line feed, and nothing else. -/
theorem leave_indentBlock_cases (entry finished : Writer) :
    (indentBlock.leave entry finished = finished.leaveBlock ∧ finished.endsLine = true) ∨
      (indentBlock.leave entry finished = { finished.leaveBlock with owesLine := true } ∧
        finished.endsLine = false) := by
  by_cases ended : finished.leaveBlock.endsLine = true
  · exact .inl ⟨if_pos ended, ended⟩
  · exact .inr ⟨if_neg ended, Bool.eq_false_iff.mpr ended⟩

/-- A scope is entered by strokes. -/
theorem strokes_enter (scope : Scope) (writer : Writer) : Strokes writer (scope.enter writer) := by
  rcases scope.enter_cases writer with ⟨started, spelled, entered⟩ | entered | entered
  · rw [entered]
    exact spelled.marks.strokes.tail (.arrange started _ started.queued true)
  · rw [entered]
    exact .single (.arrange writer writer.level _ writer.onFirstLine)
  · rw [entered]

/-- A scope is left by strokes, except that an aside goes back to where it was entered. -/
theorem strokes_leave {start entry finished : Writer} (scope : Scope)
    (entered : Strokes start entry) (ran : Strokes start finished) :
    Strokes start (scope.leave entry finished) := by
  cases scope with
  | block => exact (ran.trans finished.strokes_closeBrace).tail (.owe finished.endsLine_closeBrace)
  | inlineBlock => exact ran.trans finished.strokes_closeBrace
  | indentBlock =>
      have lowered : Strokes start finished.leaveBlock := ran.trans finished.strokes_leaveBlock
      rcases leave_indentBlock_cases entry finished with ⟨left, _⟩ | ⟨left, unended⟩
      · rw [left]
        exact lowered
      · rw [left]
        exact lowered.tail (.owe unended)
  | hanging => exact ran.tail (.arrange finished entry.level entry.queued finished.onFirstLine)
  | aside => exact entered

end Scope

namespace Action

/-- Whether an action sets or queues a level. -/
def setsLevel : Action → Bool
  | .setLevel _ | .queueLevel _ => true
  | _ => false

/-- The parts of lines that an action puts. -/
def parts (action : Action) (writer : Writer) : List Text :=
  match action with
  | .write text | .writeLine text => text.parts
  | .writeAll texts => texts.flatMap Text.parts
  | .writeIf condition text | .writeLineIf condition text => if condition then text.parts else []
  | .quoteText text => (Writer.literal writer.options text).parts
  | .quote => [[writer.options.quote]]
  | .indent times => (List.replicate times writer.options.unit).flatMap Text.parts
  | .space times => Text.parts (List.replicate times ' ')
  | .tab times => Text.parts (List.replicate times '\t')
  | .spaceIfLastNot => writer.settle.padding ' '
  | .tabIfLastNot => writer.settle.padding '\t'
  | .closeComment => writer.commentEnd
  | .emptyBlock => Scope.block.openingParts writer ++ Scope.block.closingParts
  | .newLine | .newLineIf _ | .newLineIfLastNot | .blankLine | .blankLineIf _ | .blankLineIfLastNot
  | .setLevel _ | .queueLevel _ => []

/-- An action that sets no level, and writes no block, does nothing but put its parts. -/
theorem spells_run {action : Action} (unset : action.setsLevel = false)
    (noBlock : action ≠ .emptyBlock) (writer : Writer) :
    Spells (action.parts writer) writer (action.run writer) := by
  cases action with
  | write text => exact writer.spells_write text
  | writeAll texts => exact writer.spells_writeAll texts
  | writeLine text => exact writer.spells_writeLine text
  | writeIf condition text => exact (writer.spells_write text).ite condition
  | writeLineIf condition text => exact (writer.spells_writeLine text).ite condition
  | quoteText text => exact writer.spells_write (Writer.literal writer.options text)
  | quote =>
      rw [parts, ← Options.parts_quote]
      exact writer.spells_write [writer.options.quote]
  | newLine => exact writer.spells_newLine
  | newLineIf condition =>
      have spelled := writer.spells_newLine.ite condition
      rwa [ite_self] at spelled
  | newLineIfLastNot => exact writer.spells_newLineIfLastNot
  | blankLine => exact writer.spells_blankLine
  | blankLineIf condition =>
      have spelled := writer.spells_blankLine.ite condition
      rwa [ite_self] at spelled
  | blankLineIfLastNot => exact writer.spells_blankLineIfLastNot
  | indent times => exact writer.spells_indent times
  | space times => exact writer.spells_write (List.replicate times ' ')
  | tab times => exact writer.spells_write (List.replicate times '\t')
  | spaceIfLastNot => exact writer.spells_spaceIfLastNot
  | tabIfLastNot => exact writer.spells_tabIfLastNot
  | closeComment => exact writer.spells_closeComment
  | emptyBlock => contradiction
  | setLevel indentation => contradiction
  | queueLevel indentation => contradiction

/-- An action puts its parts, writes a block or sets levels. -/
theorem run_cases (action : Action) (writer : Writer) :
    Spells (action.parts writer) writer (action.run writer) ∨ action = .emptyBlock ∨
      ∃ level queued, action.run writer = { writer with level, queued } := by
  by_cases unset : action.setsLevel = false
  · by_cases block : action = .emptyBlock
    · exact .inr (.inl block)
    · exact .inl (spells_run unset block writer)
  · refine .inr (.inr ?_)
    cases action with
    | setLevel indentation =>
        obtain ⟨level, changed⟩ := writer.run_setLevel indentation
        exact ⟨level, writer.queued, changed⟩
    | queueLevel indentation =>
        obtain ⟨queued, changed⟩ := writer.run_queueLevel indentation
        exact ⟨writer.level, queued, changed⟩
    | _ => exact absurd rfl unset

/-- An action is done by strokes. -/
theorem strokes_run (action : Action) (writer : Writer) : Strokes writer (action.run writer) := by
  rcases action.run_cases writer with spelled | rfl | ⟨level, queued, changed⟩
  · exact spelled.marks.strokes
  · exact Scope.strokes_leave .block .refl (Scope.strokes_enter .block writer)
  · rw [changed]
    exact .single (.arrange writer level queued writer.onFirstLine)

end Action

namespace Program

/-- A program is made of strokes. -/
theorem keeps_strokes (start : Writer) : Keeps fun _ writer => Strokes start writer where
  act := by
    intro _ writer action reached
    exact reached.trans (action.strokes_run writer)
  enter := by
    intro _ writer scope reached
    exact reached.trans (scope.strokes_enter writer)
  leave := by
    intro _ _ entry finished scope entered ran
    exact scope.strokes_leave entered ran

/-- A program is run by strokes. -/
theorem strokes_run (program : Program) (writer : Writer) :
    Strokes writer (program.run writer) := by
  rw [← program.atEnd_trace]
  exact (keeps_strokes writer).atEnd_of_start .refl (List.prefix_refl _)

/-- Every writer that a program passes through is reached by strokes. -/
theorem strokes_trace {program : Program} {writer : Writer} {event : Event}
    (member : event ∈ program.trace writer) : Strokes writer event.after := by
  obtain ⟨history, passed, reached⟩ := writer.exists_atEnd_of_mem member
  rw [← reached]
  exact (keeps_strokes writer).atEnd_of_start .refl passed

end Program

end SourceWriter
