import SourceWriter.Writer.Basic

/-! # Line breaks

A line break writes the configured terminator, ends what a line ends, and puts a queued level in
force. A writer may owe a line break: it is written as soon as anything else is.
-/

namespace SourceWriter.Writer

/-- Ends the current line. -/
def breakLine (writer : Writer) : Writer :=
  { writer.push writer.options.terminator.text with
    lexical := writer.lexical.endLine
    level := writer.queued.getD writer.level
    queued := none
    onFirstLine := false }

@[simp] theorem text_breakLine (writer : Writer) :
    writer.breakLine.text = writer.text ++ writer.options.terminator.text :=
  text_push writer _

/-- Writes a line break, which is then no longer owed. -/
def newLine (writer : Writer) : Writer :=
  { writer with owesLine := false }.breakLine

/-- Writes the line break that is owed. -/
def settle (writer : Writer) : Writer :=
  if writer.owesLine then writer.newLine else writer

/-- Ends the current line unless it is empty. -/
def newLineIfLastNot (writer : Writer) : Writer :=
  let settled := writer.settle
  if settled.endsLine then settled else settled.newLine

/-- Ends the current line, if it is not empty, and writes an empty one. -/
def blankLine (writer : Writer) : Writer :=
  writer.newLineIfLastNot.newLine

/-- Writes an empty line unless the text ends in one. -/
def blankLineIfLastNot (writer : Writer) : Writer :=
  if writer.endsBlankLine then writer else writer.blankLine

/-- Writes a line break under a condition. -/
def newLineIf (writer : Writer) (condition : Bool) : Writer :=
  if condition then writer.newLine else writer

/-- Writes an empty line under a condition. -/
def blankLineIf (writer : Writer) (condition : Bool) : Writer :=
  if condition then writer.blankLine else writer

end SourceWriter.Writer
