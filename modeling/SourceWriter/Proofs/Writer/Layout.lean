import Mathlib.Data.List.Forall2
import SourceWriter.Proofs.Writer.InStep
import SourceWriter.Proofs.Writer.Stroke

/-! # Layout does not leak into lexing

The same program may be run with other line ends, another width or tabs instead of spaces, and
with other levels set on the way. The texts then differ, and so do the choices that depend on how
they end; yet after every action and at both ends of every scope the texts end inside of the same
comments, literals and regular expressions (`Program.sameInside_of_similar`), as the writers stay
in step.
-/

namespace SourceWriter

namespace Writer.InStep

variable {first second : Writer}

theorem write (inStep : InStep first second) (text : Text) :
    InStep (first.write text) (second.write text) :=
  (inStep.settled.putText text).inStep

theorem writeAll (inStep : InStep first second) (parts : List Text) :
    InStep (first.writeAll parts) (second.writeAll parts) := by
  induction parts generalizing first second with
  | nil => exact inStep
  | cons part rest ih => exact ih (inStep.write part)

theorem writeLine (inStep : InStep first second) (text : Text) :
    InStep (first.writeLine text) (second.writeLine text) := by
  have owned (writer : Writer) :
      (if writer.settle.isEmpty then writer.settle
        else writer.settle.newLineIfLastNot).owesLine = false := by
    split
    · exact owesLine_settle writer
    · exact owesLine_newLineIfLastNot _
  have started : InStepSettled _ _ := ⟨inStep.settle.ownLine, owned first, owned second⟩
  exact (started.putText text).inStep.newLine

/-- As many units of indentation, whatever a unit is. -/
theorem indent (inStep : InStep first second) (firstValid : first.options.Valid)
    (secondValid : second.options.Valid) (times : Nat) :
    InStep (first.indent times) (second.indent times) := by
  -- Each unit is written on its own, with the options there were at the start.
  have units {first' second' : Writer} (settled : InStepSettled first' second') :
      InStep ((List.replicate times first.options.unit).foldl Writer.write first')
        ((List.replicate times second.options.unit).foldl Writer.write second') := by
    induction times generalizing first' second' with
    | zero => exact settled.inStep
    | succ more ih =>
        have spaces (options : Options) :
            ∀ character ∈ options.unit, character = ' ' ∨ character = '\t' := by
          intro character member
          exact Options.space_of_mem_unit member
        have written := settled.putSpaces firstValid.unit_ne_nil secondValid.unit_ne_nil
          (spaces first.options) (spaces second.options)
        apply ih
        rwa [Writer.write, Writer.write, settle_of_settled settled.firstSettled,
          settle_of_settled settled.secondSettled]
  exact units inStep.settled

theorem spaceIfLastNot (inStep : InStep first second) :
    InStep first.spaceIfLastNot second.spaceIfLastNot := by
  rw [spaceIfLastNot_eq_padWith, spaceIfLastNot_eq_padWith]
  exact (inStep.settled.padWith (.inl rfl)).inStep

theorem tabIfLastNot (inStep : InStep first second) :
    InStep first.tabIfLastNot second.tabIfLastNot := by
  rw [tabIfLastNot_eq_padWith, tabIfLastNot_eq_padWith]
  exact (inStep.settled.padWith (.inr rfl)).inStep

theorem setOff (inStep : InStep first second) : InStep first.setOff second.setOff := by
  apply inStep.settle.stepUnless atLineStart Writer.spaceIfLastNot
  · exact InLine.started
  · intro writer state margin
    exact margin.settle.padWith (.inl rfl)
  · exact inStep.settle.spaceIfLastNot

/-- Writers in step stay so if a comment is closed. -/
theorem closeComment (inStep : InStep first second) :
    InStep first.closeComment second.closeComment := by
  obtain ⟨comment, _, _⟩ := inStep.inside_eq
  unfold Writer.closeComment
  rw [← comment]
  split
  · exact inStep
  · exact inStep.newLine
  · apply write
    apply inStep.stepUnless endsLine Writer.spaceIfLastNot
    · exact InLine.unended
    · intro writer state margin
      exact margin.settle.padWith (.inl rfl)
    · exact inStep.spaceIfLastNot

theorem enterBlock (inStep : InStep first second) : InStep first.enterBlock second.enterBlock :=
  inStep.ownLine.arrange id

theorem leaveBlock (inStep : InStep first second) : InStep first.leaveBlock second.leaveBlock :=
  inStep.arrange id

theorem openBrace (inStep : InStep first second) : InStep first.openBrace second.openBrace :=
  (inStep.settle.write ['{']).enterBlock

theorem closeBrace (inStep : InStep first second) : InStep first.closeBrace second.closeBrace :=
  inStep.leaveBlock.newLineIfLastNot.write ['}']

end Writer.InStep

namespace Scope

/-- Writers in step enter a scope in step. -/
theorem inStep_enter {first second : Writer} (scope : Scope) (inStep : first.InStep second) :
    (scope.enter first).InStep (scope.enter second) := by
  cases scope with
  | block => exact inStep.setOff.openBrace
  | inlineBlock => exact inStep.openBrace
  | indentBlock => exact inStep.enterBlock
  | hanging => exact inStep.arrange id
  | aside => exact inStep

/-- Writers that were in step where they entered a scope, and are at the end of its body, leave it
in step. -/
theorem inStep_leave {firstEntry secondEntry first second : Writer} (scope : Scope)
    (entered : firstEntry.InStep secondEntry) (finished : first.InStep second) :
    (scope.leave firstEntry first).InStep (scope.leave secondEntry second) := by
  cases scope with
  | block => exact finished.closeBrace.arrange fun _ => rfl
  | inlineBlock => exact finished.closeBrace
  | indentBlock =>
      apply finished.leaveBlock.stepUnless Writer.endsLine ({ · with owesLine := true })
      · exact Writer.InLine.unended
      · intro writer state margin
        exact margin.arrange _ _ _ _
      · exact finished.leaveBlock.arrange fun _ => rfl
  | hanging => exact finished.arrange id
  | aside => exact entered

end Scope

/-- Two writers in step whose options differ at most in the layout. -/
structure Writer.Paired (first second : Writer) : Prop where
  firstValid : first.options.Valid
  secondValid : second.options.Valid
  quotes_eq : first.options.singleQuotes = second.options.singleQuotes
  inStep : first.InStep second

/-- What writers are paired by stays when both go on in step. -/
theorem Writer.Paired.strokes {first second firstAfter secondAfter : Writer}
    (paired : first.Paired second) (firstStrokes : Strokes first firstAfter)
    (secondStrokes : Strokes second secondAfter) (inStep : firstAfter.InStep secondAfter) :
    firstAfter.Paired secondAfter := by
  have firstKept := firstStrokes.options_eq
  have secondKept := secondStrokes.options_eq
  refine ⟨firstKept ▸ paired.firstValid, secondKept ▸ paired.secondValid, ?_, inStep⟩
  rw [firstKept, secondKept]
  exact paired.quotes_eq

namespace Action

/-- The same action, up to the levels that are set. -/
inductive Similar : Action → Action → Prop where
  | same (action : Action) : Similar action action
  | setLevel (first second : Indentation) : Similar (.setLevel first) (.setLevel second)
  | queueLevel (first second : Indentation) : Similar (.queueLevel first) (.queueLevel second)

variable {first second : Writer}

/-- Writers stay in step if levels are set, even different ones. -/
theorem inStep_setLevel (inStep : first.InStep second) (firstLevel secondLevel : Indentation) :
    ((setLevel firstLevel).run first).InStep ((setLevel secondLevel).run second) := by
  obtain ⟨level, firstChanged⟩ := first.run_setLevel firstLevel
  obtain ⟨level', secondChanged⟩ := second.run_setLevel secondLevel
  rw [firstChanged, secondChanged]
  exact inStep.arrange id

/-- Writers stay in step if levels are queued, even different ones. -/
theorem inStep_queueLevel (inStep : first.InStep second) (firstLevel secondLevel : Indentation) :
    ((queueLevel firstLevel).run first).InStep ((queueLevel secondLevel).run second) := by
  obtain ⟨queued, firstChanged⟩ := first.run_queueLevel firstLevel
  obtain ⟨queued', secondChanged⟩ := second.run_queueLevel secondLevel
  rw [firstChanged, secondChanged]
  exact inStep.arrange id

/-- The same action keeps writers in step. -/
theorem inStep_run (action : Action) (paired : first.Paired second) :
    (action.run first).InStep (action.run second) := by
  have inStep := paired.inStep
  have quote : first.options.quote = second.options.quote := by
    rw [Options.quote, Options.quote, paired.quotes_eq]
  cases action with
  | write text => exact inStep.write text
  | writeAll parts => exact inStep.writeAll parts
  | writeLine text => exact inStep.writeLine text
  | writeIf condition text => exact inStep.ite (inStep.write text) condition
  | writeLineIf condition text => exact inStep.ite (inStep.writeLine text) condition
  | quoteText text =>
      simp only [run, Writer.quoteText, Writer.literal, quote]
      exact inStep.write _
  | quote =>
      simp only [run, Writer.quote, quote]
      exact inStep.write _
  | newLine => exact inStep.newLine
  | newLineIf condition => exact inStep.ite inStep.newLine condition
  | newLineIfLastNot => exact inStep.newLineIfLastNot
  | blankLine => exact inStep.blankLine
  | blankLineIf condition => exact inStep.ite inStep.blankLine condition
  | blankLineIfLastNot => exact inStep.blankLineIfLastNot
  | indent times => exact inStep.indent paired.firstValid paired.secondValid times
  | space times => exact inStep.write _
  | tab times => exact inStep.write _
  | spaceIfLastNot => exact inStep.spaceIfLastNot
  | tabIfLastNot => exact inStep.tabIfLastNot
  | closeComment => exact inStep.closeComment
  | emptyBlock => exact Scope.inStep_leave .block inStep (Scope.inStep_enter .block inStep)
  | setLevel indentation => exact inStep_setLevel inStep indentation indentation
  | queueLevel indentation => exact inStep_queueLevel inStep indentation indentation

/-- Actions that differ in levels at most keep writers paired. -/
theorem Similar.paired_run {firstAction secondAction : Action}
    (similar : firstAction.Similar secondAction) (paired : first.Paired second) :
    (firstAction.run first).Paired (secondAction.run second) := by
  refine paired.strokes (firstAction.strokes_run first) (secondAction.strokes_run second) ?_
  cases similar with
  | same => exact firstAction.inStep_run paired
  | setLevel firstLevel secondLevel => exact inStep_setLevel paired.inStep firstLevel secondLevel
  | queueLevel firstLevel secondLevel =>
      exact inStep_queueLevel paired.inStep firstLevel secondLevel

end Action

/-- After both events the texts end inside of the same comment, the same literals and holes, and the
same regular expression. -/
def Event.SameInside (first second : Event) : Prop :=
  first.after.lexical.comment = second.after.lexical.comment ∧
    first.after.lexical.contexts = second.after.lexical.contexts ∧
    first.after.lexical.inRegex = second.after.lexical.inRegex

namespace Program

/-- The same program, up to the levels that are set. -/
inductive Similar : Program → Program → Prop where
  | done : Similar .done .done
  | act {firstAction secondAction : Action} (actions : firstAction.Similar secondAction)
      {firstRest secondRest : Program} (rests : Similar firstRest secondRest) :
      Similar (.act firstAction firstRest) (.act secondAction secondRest)
  | within (scope : Scope) {firstBody secondBody : Program}
      (bodies : Similar firstBody secondBody) {firstRest secondRest : Program}
      (rests : Similar firstRest secondRest) :
      Similar (.within scope firstBody firstRest) (.within scope secondBody secondRest)

namespace Similar

variable {firstProgram secondProgram : Program} {first second : Writer}

theorem paired_enter (scope : Scope) (paired : first.Paired second) :
    (scope.enter first).Paired (scope.enter second) :=
  paired.strokes (scope.strokes_enter first) (scope.strokes_enter second)
    (scope.inStep_enter paired.inStep)

/-- Writers paired at both ends of a body leave the scope around it paired. -/
theorem paired_leave (scope : Scope) (firstBody secondBody : Program)
    (paired : first.Paired second)
    (finished : (firstBody.run (scope.enter first)).Paired (secondBody.run (scope.enter second))) :
    (scope.leave first (firstBody.run (scope.enter first))).Paired
      (scope.leave second (secondBody.run (scope.enter second))) := by
  have ran (body : Program) (writer : Writer) : Strokes writer (body.run (scope.enter writer)) :=
    (scope.strokes_enter writer).trans (body.strokes_run _)
  exact paired.strokes (scope.strokes_leave .refl (ran firstBody first))
    (scope.strokes_leave .refl (ran secondBody second))
    (scope.inStep_leave paired.inStep finished.inStep)

/-- Programs that differ in levels at most keep writers paired. -/
theorem paired_run (similar : firstProgram.Similar secondProgram) (paired : first.Paired second) :
    (firstProgram.run first).Paired (secondProgram.run second) := by
  induction similar generalizing first second with
  | done => exact paired
  | act actions _ ih => exact ih (actions.paired_run paired)
  | within scope _ _ bodies_ih rests_ih =>
      have finished := bodies_ih (paired_enter scope paired)
      exact rests_ih (paired_leave scope _ _ paired finished)

/-- Paired writers that run similar programs are in step after every event. -/
theorem inStep_trace (similar : firstProgram.Similar secondProgram)
    (paired : first.Paired second) :
    List.Forall₂ (fun firstEvent secondEvent => firstEvent.after.InStep secondEvent.after)
      (firstProgram.trace first) (secondProgram.trace second) := by
  induction similar generalizing first second with
  | done => exact .nil
  | act actions _ ih =>
      have acted := actions.paired_run paired
      exact .cons acted.inStep (ih acted)
  | within scope bodies _ bodies_ih rests_ih =>
      -- The end of a scope depends on where it was entered, so both places must be paired.
      have entered := paired_enter scope paired
      have left := paired_leave scope _ _ paired (bodies.paired_run entered)
      exact .cons entered.inStep
        (List.rel_append (bodies_ih entered) (.cons left.inStep (rests_ih left)))

end Similar

/-- **Layout does not leak into lexing.** Whatever the line ends, the width, the choice of tabs and
the levels set are in two runs of one program, after every event both texts end inside of the
same. -/
theorem sameInside_of_similar {firstOptions secondOptions : Options} {first second : Writer}
    (firstCreated : Writer.new firstOptions = .ok first)
    (secondCreated : Writer.new secondOptions = .ok second)
    (quotes : firstOptions.singleQuotes = secondOptions.singleQuotes)
    {firstProgram secondProgram : Program} (similar : firstProgram.Similar secondProgram) :
    List.Forall₂ Event.SameInside (firstProgram.trace first) (secondProgram.trace second) := by
  obtain ⟨firstValid, rfl⟩ := Writer.new_eq_ok_iff.mp firstCreated
  obtain ⟨secondValid, rfl⟩ := Writer.new_eq_ok_iff.mp secondCreated
  have fresh (options : Options) : Writer.AtMargin { options } {} :=
    ⟨rfl, rfl, Lexical.LookBehind.blank_none none⟩
  have inStep : Writer.InStep { options := firstOptions } { options := secondOptions } :=
    .margin (fresh firstOptions) (fresh secondOptions)
  have paired : Writer.Paired { options := firstOptions } { options := secondOptions } :=
    ⟨firstValid, secondValid, quotes, inStep⟩
  apply (similar.inStep_trace paired).imp
  intro firstEvent secondEvent together
  exact together.inside_eq

/-- Of an empty text only the first run leaves indentation behind, so that only there the text after
it has to be put on a line of its own. -/
theorem sameInside_of_similar_own_line :
    let firstOptions : Options := {}
    let secondOptions : Options := { terminator := .crlf, width := 2, tabs := true }
    let first : Writer := { options := firstOptions }
    let second : Writer := { options := secondOptions }
    let body : Program := .act .closeComment .done
    let line : Action := .writeLine ['`', '$', '{', '/', '*']
    let rest : Program := .act (.write []) (.act line (.within .indentBlock body .done))
    let firstProgram : Program := .act (.setLevel (.level 1)) rest
    let secondProgram : Program := .act (.setLevel (.text [])) rest
    Writer.new firstOptions = .ok first ∧ Writer.new secondOptions = .ok second ∧
      firstOptions.singleQuotes = secondOptions.singleQuotes ∧
      firstProgram.Similar secondProgram ∧
      (firstProgram.run first).text = "    \n    `$\x7b/*\n        */".toList ∧
      (secondProgram.run second).text = "`$\x7b/*\r\n\t*/".toList ∧
      List.Forall₂ Event.SameInside (firstProgram.trace first) (secondProgram.trace second) := by
  intro firstOptions secondOptions first second body line rest firstProgram secondProgram
  have firstCreated : Writer.new firstOptions = .ok first := rfl
  have secondCreated : Writer.new secondOptions = .ok second := rfl
  have same : rest.Similar rest :=
    .act (.same _) (.act (.same _) (.within _ (.act (.same _) .done) .done))
  have similar : firstProgram.Similar secondProgram := .act (.setLevel _ _) same
  refine ⟨firstCreated, secondCreated, rfl, similar, ?_, ?_, ?_⟩
  · decide +kernel
  · decide +kernel
  · exact sameInside_of_similar firstCreated secondCreated rfl similar

end Program

end SourceWriter
