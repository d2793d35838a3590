import SourceWriter.Proofs.Writer.Part
import SourceWriter.Writer.Scope

/-! # What is spelled out

Writing puts parts of lines, with line breaks anywhere between them. Which parts an operation puts,
and in which order, can be read off what it is given and the writer: the lines of a text, a space or
tab that pads it, and marks of its own (`Writer.spells_write`, `Writer.spells_closeComment`). What
is kept by every line break and by putting each of these parts is kept by the operation.
-/

namespace SourceWriter

/-- These parts of lines lead from one writer to the other, put in this order, with line breaks
anywhere before, between and after them. -/
inductive Spells : List Text → Writer → Writer → Prop where
  | nothing (writer : Writer) : Spells [] writer writer
  | newLine {parts : List Text} {before after : Writer} (spelled : Spells parts before after) :
      Spells parts before after.newLine
  | put {parts : List Text} {before after : Writer} (spelled : Spells parts before after)
      (settled : after.owesLine = false) {part : Text} (noFeed : '\n' ∉ part) :
      Spells (parts ++ [part]) before (after.put part)

/-- The parts of lines that a text is put in: its lines but for the empty ones. The empty text is
one part, as it starts a line too. -/
def Text.parts (text : Text) : List Text :=
  if text.isEmpty then [[]] else text.lines.filter fun line => !line.isEmpty

/-- A quote is a part of one character. -/
theorem Options.parts_quote (options : Options) :
    Text.parts [options.quote] = [[options.quote]] := by
  unfold Options.quote
  split <;> rfl

namespace Spells

variable {parts more : List Text} {before middle after : Writer}

/-- Parts are spelled out, and then more parts: then all of them are, in order. -/
theorem trans (first : Spells parts before middle) (second : Spells more middle after) :
    Spells (parts ++ more) before after := by
  induction second with
  | nothing => rwa [List.append_nil]
  | newLine _ ih => exact (ih first).newLine
  | put _ settled noFeed ih =>
      rw [← List.append_assoc]
      exact (ih first).put settled noFeed

/-- What is done only under a condition puts its parts only then. -/
theorem ite (spelled : Spells parts before after) (condition : Bool) :
    Spells (if condition then parts else []) before (if condition then after else before) := by
  split
  · exact spelled
  · exact .nothing before

end Spells

namespace Writer

/-! ### Line breaks -/

theorem spells_newLine (writer : Writer) : Spells [] writer writer.newLine :=
  (Spells.nothing writer).newLine

theorem spells_settle (writer : Writer) : Spells [] writer writer.settle := by
  unfold settle
  split
  · exact writer.spells_newLine
  · exact .nothing writer

theorem spells_newLineIfLastNot (writer : Writer) :
    Spells [] writer writer.newLineIfLastNot := by
  simp only [newLineIfLastNot]
  split
  · exact writer.spells_settle
  · exact writer.spells_settle.newLine

theorem spells_blankLine (writer : Writer) : Spells [] writer writer.blankLine :=
  writer.spells_newLineIfLastNot.newLine

theorem spells_blankLineIfLastNot (writer : Writer) :
    Spells [] writer writer.blankLineIfLastNot := by
  unfold blankLineIfLastNot
  split
  · exact .nothing writer
  · exact writer.spells_blankLine

/-! ### Texts -/

/-- A part of a line is spelled out as it is. -/
theorem spells_put {writer : Writer} (settled : writer.owesLine = false) {part : Text}
    (noFeed : '\n' ∉ part) : Spells [part] writer (writer.put part) :=
  (Spells.nothing writer).put settled noFeed

theorem spells_putLine {writer : Writer} (settled : writer.owesLine = false) {line : Text}
    (noFeed : '\n' ∉ line) :
    Spells ([line].filter fun line => !line.isEmpty) writer (writer.putLine line) := by
  cases line with
  | nil => exact .nothing writer
  | cons character rest => exact spells_put settled noFeed

theorem spells_putJoined {writer : Writer} (settled : writer.owesLine = false)
    {lines : List Text} (noFeeds : ∀ line ∈ lines, '\n' ∉ line) :
    Spells (lines.filter fun line => !line.isEmpty) writer (writer.putJoined lines) := by
  induction lines generalizing writer with
  | nil => exact .nothing writer
  | cons line rest ih =>
      have written := spells_putLine settled (noFeeds line List.mem_cons_self)
      by_cases last : rest = []
      · subst last
        exact written
      · have settledStill : (writer.putLine line).owesLine = false := by
          rw [owesLine_putLine, settled]
        rw [putJoined_cons last, ← newLine_eq_breakLine settledStill, ← List.singleton_append,
          List.filter_append]
        apply written.newLine.trans
        apply ih rfl
        intro line member
        exact noFeeds line (List.mem_cons_of_mem _ member)

/-- A text is spelled out by its parts. -/
theorem spells_putText {writer : Writer} (settled : writer.owesLine = false) (text : Text) :
    Spells text.parts writer (writer.putText text) := by
  by_cases empty : text = []
  · subst empty
    exact spells_put settled List.not_mem_nil
  · rw [putText_eq_putJoined empty, Text.parts, if_neg (by simpa using empty)]
    apply spells_putJoined settled
    intro line member
    exact Text.not_mem_of_mem_lines member

/-- A text is spelled out by its parts, after the line break that may be owed. -/
theorem spells_write (writer : Writer) (text : Text) :
    Spells text.parts writer (writer.write text) :=
  writer.spells_settle.trans (spells_putText (owesLine_settle writer) text)

theorem spells_writeAll (writer : Writer) (texts : List Text) :
    Spells (texts.flatMap Text.parts) writer (writer.writeAll texts) := by
  induction texts generalizing writer with
  | nil => exact .nothing writer
  | cons text rest ih => exact (writer.spells_write text).trans (ih _)

theorem spells_writeLine (writer : Writer) (text : Text) :
    Spells text.parts writer (writer.writeLine text) := by
  have settled := owesLine_settle writer
  simp only [writeLine]
  split
  · exact writer.spells_settle.trans (spells_putText settled text).newLine
  · have started := writer.spells_settle.trans writer.settle.spells_newLineIfLastNot
    exact started.trans (spells_putText (owesLine_newLineIfLastNot _) text).newLine

theorem spells_indent (writer : Writer) (times : Nat) :
    Spells ((List.replicate times writer.options.unit).flatMap Text.parts) writer
      (writer.indent times) :=
  writer.spells_settle.trans (writer.settle.spells_writeAll _)

/-! ### Paddings and marks -/

/-- The space or tab that pads a settled text, unless the text ends in it. -/
def padding (writer : Writer) (character : Char) : List Text :=
  if writer.lastChar == some character then [] else [[character]]

theorem eq_of_mem_padding {writer : Writer} {character : Char} {part : Text}
    (member : part ∈ writer.padding character) : part = [character] := by
  unfold padding at member
  split at member
  · contradiction
  · exact List.mem_singleton.mp member

/-- What is padded is spelled out only if it is missing. -/
theorem spells_padWith {writer : Writer} (settled : writer.owesLine = false) {character : Char}
    (inLine : character ≠ '\n') :
    Spells (writer.padding character) writer (writer.padWith character) := by
  unfold padding padWith
  split
  · exact .nothing writer
  · have noFeed : '\n' ∉ [character] := by simpa using inLine.symm
    rw [putText_of_not_mem noFeed]
    exact spells_put settled noFeed

theorem spells_spaceIfLastNot (writer : Writer) :
    Spells (writer.settle.padding ' ') writer writer.spaceIfLastNot :=
  writer.spells_settle.trans (spells_padWith (owesLine_settle writer) (by decide))

theorem spells_tabIfLastNot (writer : Writer) :
    Spells (writer.settle.padding '\t') writer writer.tabIfLastNot :=
  writer.spells_settle.trans (spells_padWith (owesLine_settle writer) (by decide))

/-- What sets an opening brace off from the text before it. -/
def separation (writer : Writer) : List Text :=
  if writer.settle.atLineStart then [] else writer.settle.padding ' '

theorem spells_setOff (writer : Writer) : Spells writer.separation writer writer.setOff := by
  simp only [separation, setOff]
  split
  · exact writer.spells_settle
  · have spaced := writer.settle.spells_spaceIfLastNot
    rw [settle_of_settled (owesLine_settle writer)] at spaced
    exact writer.spells_settle.trans spaced

/-- What closes the current comment, but for line breaks. -/
def commentEnd (writer : Writer) : List Text :=
  match writer.lexical.comment with
  | some .block => (if writer.endsLine then [] else writer.settle.padding ' ') ++ [['*', '/']]
  | _ => []

/-- A comment is closed by spelling out what ends it. -/
theorem spells_closeComment (writer : Writer) :
    Spells writer.commentEnd writer writer.closeComment := by
  unfold commentEnd closeComment
  split
  · next block =>
      simp only [block]
      split
      · exact writer.spells_write ['*', '/']
      · exact writer.spells_spaceIfLastNot.trans (spells_write _ ['*', '/'])
  · next other =>
      split
      · exact .nothing writer
      · exact writer.spells_newLine
      · next block => exact absurd block other

theorem spells_openBrace (writer : Writer) :
    Spells [['{']] writer (writer.settle.write ['{']) :=
  writer.spells_settle.trans (spells_write _ ['{'])

theorem spells_closeBrace (writer : Writer) :
    Spells [['}']] writer.leaveBlock writer.closeBrace :=
  (spells_newLineIfLastNot _).trans (spells_write _ ['}'])

end Writer

end SourceWriter
