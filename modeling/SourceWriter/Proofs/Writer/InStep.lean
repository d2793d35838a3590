import SourceWriter.Proofs.Writer.Margin
import SourceWriter.Writer.Scope

/-! # Writers in step

Two writers that lay out their lines differently are in step if nothing that both of them write
next can tell their lexical states apart (`Writer.InStep`). Their texts need not end alike: at the
margin one may have ended the line and the other not, and after spaces or tabs one may have put
more of them than the other. Everything that is done with both of them keeps them in step,
although it may write a blank or a line break to only one.
-/

namespace SourceWriter.Writer

open Lexical

/-- Two writers that what is written next cannot tell apart. -/
inductive InStep (first second : Writer) : Prop where
  | margin {state : State} (firstMargin : first.AtMargin state)
      (secondMargin : second.AtMargin state) : InStep first second
  /-- Both end in spaces or tabs, not always the same ones. -/
  | spaced {state : State} (owes : first.owesLine = second.owesLine)
      (firstSpace : first.AfterSpace state) (secondSpace : second.AfterSpace state) :
      InStep first second
  | inLine (owes : first.owesLine = second.owesLine) (same : first.lexical = second.lexical)
      (alike : first.behind.Alike second.behind) (firstIn : first.InLine)
      (secondIn : second.InLine) : InStep first second

namespace InStep

variable {first second : Writer}

/-- The states differ at most in whether the last character was escaped. -/
theorem forgetEscaped_eq (inStep : InStep first second) :
    first.lexical.forgetEscaped = second.lexical.forgetEscaped := by
  cases inStep with
  | margin firstMargin secondMargin => rw [firstMargin.lexical_eq, secondMargin.lexical_eq]
  | spaced _ firstSpace secondSpace => rw [firstSpace.lexical_eq, secondSpace.lexical_eq]
  | inLine _ same _ _ _ => rw [same]

/-- Writers in step are inside of the same comment, the same literals and holes, and the same
regular expression. -/
theorem inside_eq (inStep : InStep first second) :
    first.lexical.comment = second.lexical.comment ∧
      first.lexical.contexts = second.lexical.contexts ∧
      first.lexical.inRegex = second.lexical.inRegex := by
  have same := inStep.forgetEscaped_eq
  simp only [State.forgetEscaped, State.mk.injEq] at same
  obtain ⟨comment, contexts, regex, _, _⟩ := same
  exact ⟨comment, contexts, regex⟩

/-- Away from the margin both are inside of a line and owe the same. -/
theorem margin_or_inLine (inStep : InStep first second) :
    (∃ state, first.AtMargin state ∧ second.AtMargin state) ∨
      first.owesLine = second.owesLine ∧ first.InLine ∧ second.InLine := by
  cases inStep with
  | margin firstMargin secondMargin => exact .inl ⟨_, firstMargin, secondMargin⟩
  | spaced owes firstSpace secondSpace => exact .inr ⟨owes, firstSpace.inLine, secondSpace.inLine⟩
  | inLine owes _ _ firstIn secondIn => exact .inr ⟨owes, firstIn, secondIn⟩

/-- What depends on neither text is done to both of them or to none. -/
theorem ite (inStep : InStep first second) {firstAfter secondAfter : Writer}
    (stepped : InStep firstAfter secondAfter) (condition : Bool) :
    InStep (if condition then firstAfter else first)
      (if condition then secondAfter else second) := by
  split
  · exact stepped
  · exact inStep

/-- What depends on how the text ends is done to only one of them at the margin, where it makes no
difference, and to both inside of a line. -/
theorem stepUnless (inStep : InStep first second) (condition : Writer → Bool)
    (step : Writer → Writer)
    (inLine : ∀ {writer : Writer}, writer.InLine → condition writer = false)
    (margin : ∀ {writer : Writer} {state : State},
      writer.AtMargin state → (step writer).AtMargin state)
    (stepped : InStep (step first) (step second)) :
    InStep (if condition first then first else step first)
      (if condition second then second else step second) := by
  rcases inStep.margin_or_inLine with ⟨state, firstMargin, secondMargin⟩ | ⟨_, firstIn, secondIn⟩
  · have moved {writer : Writer} (before : writer.AtMargin state) :
        AtMargin (if condition writer then writer else step writer) state := by
      split
      · exact before
      · exact margin before
    exact .margin (moved firstMargin) (moved secondMargin)
  · rw [inLine firstIn, inLine secondIn]
    exact stepped

/-- Levels make no difference, and line breaks that are owed make none at the margin. -/
theorem arrange (inStep : InStep first second) {level level' : Rat} {queued queued' : Option Rat}
    {owesLine owesLine' onFirstLine onFirstLine' : Bool}
    (owesAlike : first.owesLine = second.owesLine → owesLine = owesLine') :
    InStep { first with level, queued, owesLine, onFirstLine }
      { second with
        level := level', queued := queued', owesLine := owesLine',
        onFirstLine := onFirstLine' } := by
  cases inStep with
  | margin firstMargin secondMargin =>
      exact .margin (firstMargin.arrange _ _ _ _) (secondMargin.arrange _ _ _ _)
  | spaced owes firstSpace secondSpace =>
      exact .spaced (owesAlike owes)
        ⟨firstSpace.lexical_eq, firstSpace.unescaping, firstSpace.space⟩
        ⟨secondSpace.lexical_eq, secondSpace.unescaping, secondSpace.space⟩
  | inLine owes same alike firstIn secondIn =>
      exact .inLine (owesAlike owes) same alike ⟨firstIn.started, firstIn.unblank⟩
        ⟨secondIn.started, secondIn.unblank⟩

/-! ### Line breaks -/

/-- A line break brings both to the margin. -/
theorem newLine (inStep : InStep first second) : InStep first.newLine second.newLine := by
  have ended : second.lexical.endLine = first.lexical.endLine := by
    rw [← State.endLine_forgetEscaped first.lexical, inStep.forgetEscaped_eq,
      State.endLine_forgetEscaped]
  have secondMargin := second.atMargin_newLine
  rw [ended] at secondMargin
  exact .margin first.atMargin_newLine secondMargin

theorem settle (inStep : InStep first second) : InStep first.settle second.settle := by
  rcases inStep.margin_or_inLine with ⟨_, firstMargin, secondMargin⟩ | ⟨owes, _, _⟩
  · exact .margin firstMargin.settle secondMargin.settle
  · rw [Writer.settle, Writer.settle, ← owes]
    exact inStep.ite inStep.newLine first.owesLine

theorem newLineIfLastNot (inStep : InStep first second) :
    InStep first.newLineIfLastNot second.newLineIfLastNot := by
  apply inStep.settle.stepUnless endsLine Writer.newLine
  · exact InLine.unended
  · exact AtMargin.newLine
  · exact inStep.settle.newLine

theorem blankLine (inStep : InStep first second) : InStep first.blankLine second.blankLine :=
  inStep.newLineIfLastNot.newLine

theorem blankLineIfLastNot (inStep : InStep first second) :
    InStep first.blankLineIfLastNot second.blankLineIfLastNot := by
  apply inStep.stepUnless endsBlankLine Writer.blankLine
  · exact InLine.unblank
  · intro writer state margin
    exact margin.settle.newLineIfLastNot.newLine
  · exact inStep.blankLine

/-- A line of its own, unless nothing was written. -/
theorem ownLine (inStep : InStep first second) :
    InStep (if first.isEmpty then first else first.newLineIfLastNot)
      (if second.isEmpty then second else second.newLineIfLastNot) := by
  apply inStep.stepUnless isEmpty Writer.newLineIfLastNot
  · exact InLine.filled
  · intro writer state margin
    exact margin.settle.newLineIfLastNot
  · exact inStep.newLineIfLastNot

/-! ### Content -/

/-- Writers in step start lines alike, however deep their indentation. -/
theorem startLine (inStep : InStep first second) : InStep first.startLine second.startLine := by
  rcases inStep.margin_or_inLine with ⟨_, firstMargin, secondMargin⟩ | ⟨_, firstIn, secondIn⟩
  · exact .margin firstMargin.startLine secondMargin.startLine
  · rw [startLine_of_started firstIn.started, startLine_of_started secondIn.started]
    exact inStep

/-- The next character leads to the same state, whatever layout was before it. -/
theorem lexical_append_character (inStep : InStep first second) (character : Char) :
    (first.append [character]).lexical = (second.append [character]).lexical ∧
      (first.append [character]).behind.Alike (second.append [character]).behind := by
  have lexical (writer : Writer) :
      (writer.append [character]).lexical = writer.lexical.update writer.behind character :=
    lexical_append writer [character]
  have behind (writer : Writer) :
      (writer.append [character]).behind = writer.behind.push character := by
    rw [Writer.behind, text_append, LookBehind.ofText_concat]
    rfl
  rw [lexical, lexical, behind, behind]
  have forgetful := inStep.forgetEscaped_eq
  cases inStep with
  | margin firstMargin secondMargin =>
      exact ⟨State.update_eq_of_blank firstMargin.blank secondMargin.blank forgetful
          firstMargin.goesOn secondMargin.goesOn character,
        firstMargin.blank.push_alike secondMargin.blank character⟩
  | spaced _ firstSpace secondSpace =>
      exact ⟨State.update_eq_of_blank firstSpace.blank secondSpace.blank forgetful
          firstSpace.goesOn secondSpace.goesOn character,
        firstSpace.blank.push_alike secondSpace.blank character⟩
  | inLine _ same alike _ _ =>
      rw [same, State.update_congr alike, alike.push_eq]
      exact ⟨rfl, .refl _⟩

/-- The same part of a line leads to the same state, whatever layout was before it. -/
theorem lexical_append_part (inStep : InStep first second) {part : Text} (nonempty : part ≠ []) :
    (first.append part).lexical = (second.append part).lexical ∧
      (first.append part).behind.Alike (second.append part).behind := by
  cases part with
  | nil => contradiction
  | cons character rest =>
      obtain ⟨same, alike⟩ := inStep.lexical_append_character character
      rw [← List.singleton_append, ← append_append, ← append_append]
      constructor
      · rw [lexical_append _ rest, lexical_append _ rest, same]
        exact State.feedFrom_congr alike _ rest
      · simp only [behind, text_append] at alike ⊢
        exact alike.append rest

end InStep

/-- Two writers in step that owe no line break. -/
structure InStepSettled (first second : Writer) : Prop where
  inStep : InStep first second
  firstSettled : first.owesLine = false
  secondSettled : second.owesLine = false

/-- Writers in step owe no line break once they have settled. -/
theorem InStep.settled {first second : Writer} (inStep : InStep first second) :
    InStepSettled first.settle second.settle :=
  ⟨inStep.settle, owesLine_settle first, owesLine_settle second⟩

namespace InStepSettled

variable {first second : Writer}

/-- The same part of a line does the same to both. -/
theorem append (settled : InStepSettled first second) {part : Text} (noFeed : '\n' ∉ part) :
    InStepSettled (first.append part) (second.append part) := by
  refine ⟨?_, settled.firstSettled, settled.secondSettled⟩
  have owes : first.owesLine = second.owesLine :=
    settled.firstSettled.trans settled.secondSettled.symm
  by_cases empty : part = []
  · subst empty
    exact settled.inStep
  · obtain ⟨same, alike⟩ := settled.inStep.lexical_append_part empty
    rcases settled.inStep.margin_or_inLine with ⟨_, firstMargin, secondMargin⟩ |
      ⟨_, firstIn, secondIn⟩
    -- Blanks alone leave both at the margin, and any other character takes both away from it.
    · cases blanks : part.all isBlank with
      | true =>
          have blanks := List.all_eq_true.mp blanks
          exact .margin (firstMargin.append blanks) (secondMargin.append blanks)
      | false =>
          obtain ⟨character, member, visible⟩ := List.all_eq_false.mp blanks
          have visible := Bool.eq_false_iff.mpr visible
          exact .inLine owes same alike (inLine_append noFeed member visible first)
            (inLine_append noFeed member visible second)
    · exact .inLine owes same alike (firstIn.append empty noFeed) (secondIn.append empty noFeed)

/-- Writers in step stay so over a part of a line. -/
theorem put (settled : InStepSettled first second) {part : Text} (noFeed : '\n' ∉ part) :
    InStepSettled (first.put part) (second.put part) := by
  have started : InStepSettled first.startLine second.startLine :=
    ⟨settled.inStep.startLine, (owesLine_startLine first).trans settled.firstSettled,
      (owesLine_startLine second).trans settled.secondSettled⟩
  exact started.append noFeed

/-- Writers in step stay so over a line break. -/
theorem breakLine (settled : InStepSettled first second) :
    InStepSettled first.breakLine second.breakLine := by
  rw [← newLine_eq_breakLine settled.firstSettled, ← newLine_eq_breakLine settled.secondSettled]
  exact ⟨settled.inStep.newLine, rfl, rfl⟩

theorem putJoined (settled : InStepSettled first second) {lines : List Text}
    (noFeeds : ∀ line ∈ lines, '\n' ∉ line) :
    InStepSettled (first.putJoined lines) (second.putJoined lines) := by
  induction lines generalizing first second with
  | nil => exact settled
  | cons line rest ih =>
      have written : InStepSettled (first.putLine line) (second.putLine line) := by
        unfold putLine
        split
        · exact settled
        · exact settled.put (noFeeds line List.mem_cons_self)
      by_cases last : rest = []
      · subst last
        exact written
      · rw [putJoined_cons last, putJoined_cons last]
        apply ih written.breakLine
        intro line member
        exact noFeeds line (List.mem_cons_of_mem _ member)

/-- Writers in step stay so over a text. -/
theorem putText (settled : InStepSettled first second) (text : Text) :
    InStepSettled (first.putText text) (second.putText text) := by
  by_cases empty : text = []
  · subst empty
    exact settled.put List.not_mem_nil
  · rw [putText_eq_putJoined empty, putText_eq_putJoined empty]
    apply settled.putJoined
    intro line member
    exact Text.not_mem_of_mem_lines member

/-- Spaces and tabs, not always the same ones. -/
theorem putSpaces (settled : InStepSettled first second) {firstPart secondPart : Text}
    (firstFilled : firstPart ≠ []) (secondFilled : secondPart ≠ [])
    (firstSpaces : ∀ character ∈ firstPart, character = ' ' ∨ character = '\t')
    (secondSpaces : ∀ character ∈ secondPart, character = ' ' ∨ character = '\t') :
    InStepSettled (first.putText firstPart) (second.putText secondPart) := by
  have owes : (first.putText firstPart).owesLine = (second.putText secondPart).owesLine := by
    rw [owesLine_putText, owesLine_putText, settled.firstSettled, settled.secondSettled]
  refine ⟨?_, (owesLine_putText _ _).trans settled.firstSettled,
    (owesLine_putText _ _).trans settled.secondSettled⟩
  cases settled.inStep with
  | margin firstMargin secondMargin =>
      exact .margin (firstMargin.putText firstSpaces) (secondMargin.putText secondSpaces)
  | spaced _ firstSpace secondSpace =>
      exact .spaced owes (firstSpace.putText firstFilled firstSpaces)
        (secondSpace.putText secondFilled secondSpaces)
  | inLine _ same alike firstIn secondIn =>
      have firstSpace := afterSpace_putText firstIn.started firstFilled firstSpaces
      have secondSpace := afterSpace_putText secondIn.started secondFilled secondSpaces
      rw [← same, ← last_behind, ← alike.1, last_behind] at secondSpace
      exact .spaced owes firstSpace secondSpace

/-- A space or tab that only one of them may need. -/
theorem padWith (settled : InStepSettled first second) {character : Char}
    (space : character = ' ' ∨ character = '\t') :
    InStepSettled (first.padWith character) (second.padWith character) := by
  have firstSettled := (owesLine_padWith first character).trans settled.firstSettled
  have secondSettled := (owesLine_padWith second character).trans settled.secondSettled
  refine ⟨?_, firstSettled, secondSettled⟩
  cases settled.inStep with
  | margin firstMargin secondMargin =>
      exact .margin (firstMargin.padWith space) (secondMargin.padWith space)
  | spaced _ firstSpace secondSpace =>
      exact .spaced (firstSettled.trans secondSettled.symm) (firstSpace.padWith space)
        (secondSpace.padWith space)
  | inLine _ _ alike _ _ =>
      have last : first.lastChar = second.lastChar := by
        rw [← last_behind, ← last_behind, alike.1]
      unfold Writer.padWith
      rw [last]
      split
      · exact settled.inStep
      · exact (settled.putText [character]).inStep

end InStepSettled

end SourceWriter.Writer
