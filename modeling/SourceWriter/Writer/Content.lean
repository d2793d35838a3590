import SourceWriter.Text.Escape
import SourceWriter.Text.Lines
import SourceWriter.Writer.Line

/-! # Writing content

Content is written line by line. A line that starts in a string literal is written as it is;
any other line that is started by content gets the indentation of the current level first.
Indentation is no content: the lexical state never sees it.
-/

namespace SourceWriter.Writer

/-- Starts a line: appends its indentation. -/
def startLine (writer : Writer) : Writer :=
  if writer.atLineStart && !writer.inString then
    writer.push writer.indentation
  else writer

/-- Appends characters as they are. -/
def append (writer : Writer) (part : Text) : Writer :=
  { writer.push part with
    lexical := writer.lexical.feedFrom (.ofReversed writer.written) part }

@[simp] theorem text_append (writer : Writer) (part : Text) :
    (writer.append part).text = writer.text ++ part :=
  text_push writer part

/-- Appending feeds the lexical state with what is appended to the text. -/
@[simp] theorem lexical_append (writer : Writer) (part : Text) :
    (writer.append part).lexical = writer.lexical.feed writer.text part := by
  simp [append, Lexical.State.feed, Lexical.LookBehind.ofReversed_eq, text]

/-- Writes a part of one line. -/
def put (writer : Writer) (part : Text) : Writer :=
  writer.startLine.append part

/-- Writes a part of one line, and leaves an empty line empty. -/
def putLine (writer : Writer) (line : Text) : Writer :=
  if line.isEmpty then writer else writer.put line

/-- Writes lines, with a line break before each. -/
def putLines (writer : Writer) (lines : List Text) : Writer :=
  lines.foldl (fun writer line => writer.breakLine.putLine line) writer

/-- Writes the lines of a text. The empty text alone starts a line too. -/
def putText (writer : Writer) (text : Text) : Writer :=
  if text.isEmpty then writer.put []
  else
    match text.lines with
    | [] => writer
    | first :: rest => (writer.putLine first).putLines rest

/-- Writes a text, after the line break that may be owed. -/
def write (writer : Writer) (text : Text) : Writer :=
  writer.settle.putText text

/-- Writes texts one after the other. -/
def writeAll (writer : Writer) (parts : List Text) : Writer :=
  parts.foldl write writer

/-- Writes a text on lines of its own. -/
def writeLine (writer : Writer) (text : Text) : Writer :=
  let settled := writer.settle
  let started := if settled.isEmpty then settled else settled.newLineIfLastNot
  (started.putText text).newLine

/-- Writes a text under a condition. -/
def writeIf (writer : Writer) (condition : Bool) (text : Text) : Writer :=
  if condition then writer.write text else writer

/-- Writes a text on lines of its own under a condition. -/
def writeLineIf (writer : Writer) (condition : Bool) (text : Text) : Writer :=
  if condition then writer.writeLine text else writer

/-- Writes whole units of indentation at the current position. -/
def indent (writer : Writer) (times : Nat) : Writer :=
  (List.replicate times writer.options.unit).foldl write writer.settle

/-- Writes so many spaces. -/
def space (writer : Writer) (times : Nat) : Writer :=
  writer.write (List.replicate times ' ')

/-- Writes so many tabs, which are content and no indentation. -/
def tab (writer : Writer) (times : Nat) : Writer :=
  writer.write (List.replicate times '\t')

/-- Writes a space unless the text ends in one. -/
def spaceIfLastNot (writer : Writer) : Writer :=
  let settled := writer.settle
  if settled.endsSpace then settled else settled.putText [' ']

/-- Writes a tab unless the text ends in one. -/
def tabIfLastNot (writer : Writer) : Writer :=
  let settled := writer.settle
  if settled.endsTab then settled else settled.putText ['\t']

/-- Writes the character that quotes literals. -/
def quote (writer : Writer) : Writer :=
  writer.write [writer.options.quote]

/-- A text as a string literal. -/
def literal (options : Options) (text : Text) : Text :=
  [options.quote] ++ text.escapeWithin options.quote ++ [options.quote]

/-- Writes a text as a string literal, with the quotes of the options. -/
def quoteText (writer : Writer) (text : Text) : Writer :=
  writer.write (literal writer.options text)

/-- Writes what ends the current comment, if the text ends in one: a line break, or the mark
that closes a block comment, set off by a space. -/
def closeComment (writer : Writer) : Writer :=
  match writer.lexical.comment with
  | none => writer
  | some .line => writer.newLine
  | some .block =>
    (if writer.endsLine then writer else writer.spaceIfLastNot).write ['*', '/']

end SourceWriter.Writer
