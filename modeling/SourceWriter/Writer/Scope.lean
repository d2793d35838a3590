import SourceWriter.Writer.Content

/-! # Scopes

A scope surrounds the steps of its body: it is entered before them and left after them, and
leaving it may put back what was in force where it was entered. Blocks raise the level by one
and lower it again, hanging indentation lasts until the scope is left, and steps in an aside
leave no trace.
-/

namespace SourceWriter

/-- What can surround steps. -/
inductive Scope where
  /-- Braces, set off from the text before by a space, with a line break owed after them. -/
  | block
  /-- Braces right at the current position. -/
  | inlineBlock
  /-- One more level without braces. -/
  | indentBlock
  /-- One more level for the lines after the first. -/
  | hanging
  /-- Steps taken on a copy that is then dropped. -/
  | aside
  deriving DecidableEq

namespace Writer

/-- Starts the lines of a block. -/
def enterBlock (writer : Writer) : Writer :=
  let started := if writer.isEmpty then writer else writer.newLineIfLastNot
  { started with level := started.level + 1, onFirstLine := true }

/-- Ends the lines of a block. A level below zero, which only a body that sets its level can
leave, counts as zero. -/
def leaveBlock (writer : Writer) : Writer :=
  { writer with
    level := if 1 < writer.level then writer.level - 1 else 0
    onFirstLine := false }

/-- Opens a brace and its block at the current position. -/
def openBrace (writer : Writer) : Writer :=
  (writer.settle.write ['{']).enterBlock

/-- Ends the block of a brace, and closes the brace on a line of its own. -/
def closeBrace (writer : Writer) : Writer :=
  writer.leaveBlock.newLineIfLastNot.write ['}']

/-- Sets an opening brace off from the text before it on the same line. -/
def setOff (writer : Writer) : Writer :=
  let settled := writer.settle
  if settled.atLineStart then settled else settled.spaceIfLastNot

end Writer

namespace Scope

/-- The writer at the start of the body. -/
def enter (scope : Scope) (writer : Writer) : Writer :=
  match scope with
  | .block => writer.setOff.openBrace
  | .inlineBlock => writer.openBrace
  | .indentBlock => writer.enterBlock
  | .hanging => { writer with queued := some (writer.wholeLevel + 1) }
  | .aside => writer

/-- The writer after the scope, from the writers where it was entered and at the end of the
body. -/
def leave (scope : Scope) (entry finished : Writer) : Writer :=
  match scope with
  | .block => { finished.closeBrace with owesLine := true }
  | .inlineBlock => finished.closeBrace
  | .indentBlock =>
    let left := finished.leaveBlock
    if left.endsLine then left else { left with owesLine := true }
  | .hanging => { finished with level := entry.level, queued := entry.queued }
  | .aside => entry

end Scope

/-- Writes a block with nothing in it. -/
def Writer.emptyBlock (writer : Writer) : Writer :=
  Scope.block.leave writer (Scope.block.enter writer)

end SourceWriter
