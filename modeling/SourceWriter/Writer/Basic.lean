import SourceWriter.Indentation
import SourceWriter.Lexical.Feed

/-! # Writers

A writer holds the text written so far, what that text ends inside of, and how the next lines
are to be indented. Everything else that can be asked about its text is read off the text. As a
text only ever grows at its end, that end is what a writer has at hand: `Writer.written` holds
the last character first, and `Writer.text` is the text as it is read.
-/

namespace SourceWriter

/-- A text under construction. -/
structure Writer where
  options : Options
  /-- What was written so far, last character first. -/
  written : Text := []
  /-- What the text ends inside of. -/
  lexical : Lexical.State := {}
  /-- The level of the lines to come. -/
  level : Rat := 0
  /-- The level of the lines after the next line break. -/
  queued : Option Rat := none
  /-- Whether a line break comes before whatever is written next. -/
  owesLine : Bool := false
  /-- Whether no line was ended since the innermost block began. -/
  onFirstLine : Bool := false
  deriving DecidableEq

namespace Writer

/-- A writer without text. -/
def new (options : Options) : Except Error Writer := do
  options.validate
  return { options }

/-- Writers are made of valid options, and start without text. -/
theorem new_eq_ok_iff {options : Options} {writer : Writer} :
    new options = .ok writer ↔ options.Valid ∧ writer = { options } := by
  unfold new Options.validate
  split
  · rename_i valid
    constructor
    · intro made
      exact ⟨valid, (Except.ok.inj made).symm⟩
    · rintro ⟨_, rfl⟩
      rfl
  · rename_i invalid
    constructor
    · intro made
      nomatch made
    · rintro ⟨valid, _⟩
      contradiction

/-- The text as it is read. -/
def text (writer : Writer) : Text :=
  writer.written.reverse

/-- Puts characters at the end of the text. -/
def push (writer : Writer) (part : Text) : Writer :=
  { writer with written := part.reverse ++ writer.written }

@[simp] theorem text_push (writer : Writer) (part : Text) :
    (writer.push part).text = writer.text ++ part := by
  simp [text, push]

/-- The last character of the text. -/
def lastChar (writer : Writer) : Option Char :=
  writer.written.head?

/-- The character that is held first is the last one of the text. -/
theorem lastChar_eq_getLast? (writer : Writer) : writer.lastChar = writer.text.getLast? := by
  simp [lastChar, text]

/-- Whether the last character is a line feed. -/
def endsLine (writer : Writer) : Bool :=
  writer.lastChar == some '\n'

/-- Whether the last character is a space. -/
def endsSpace (writer : Writer) : Bool :=
  writer.lastChar == some ' '

/-- Whether the last character is a tab. -/
def endsTab (writer : Writer) : Bool :=
  writer.lastChar == some '\t'

/-- Whether a text, read backwards, has two line feeds with nothing but carriage returns before
and between them. -/
def startsBlankLine (reversed : Text) : Bool :=
  match reversed.dropWhile (· == '\r') with
  | '\n' :: rest => (rest.dropWhile (· == '\r')).head? == some '\n'
  | _ => false

/-- Whether the text ends in an empty line. -/
def endsBlankLine (writer : Writer) : Bool :=
  startsBlankLine writer.written

/-- Whether nothing was written yet. -/
def isEmpty (writer : Writer) : Bool :=
  writer.written.isEmpty

theorem isEmpty_eq_isEmpty_text (writer : Writer) : writer.isEmpty = writer.text.isEmpty := by
  simp [isEmpty, text]

/-- Whether what is written next starts a line. -/
def atLineStart (writer : Writer) : Bool :=
  writer.isEmpty || writer.endsLine

/-- Whether the text ends in a comment. -/
def inComment (writer : Writer) : Bool :=
  writer.lexical.inComment

/-- Whether the text ends in a string literal. -/
def inString (writer : Writer) : Bool :=
  writer.lexical.inString

/-- Whether the text ends in a regular expression literal. -/
def inRegex (writer : Writer) : Bool :=
  writer.lexical.inRegex

/-- Whether the writer is at the start of the first line of a block. -/
def atStartOfFirstLine (writer : Writer) : Bool :=
  writer.onFirstLine && writer.atLineStart

/-- The whole number of levels that lines are indented by. -/
def wholeLevel (writer : Writer) : Nat :=
  writer.level.floor.toNat

/-- The whitespace that starts a line. -/
def indentation (writer : Writer) : Text :=
  writer.options.indentation writer.level

/-- Sets the level of the lines to come, at once. An indentation that is refused changes nothing. -/
def setLevel (writer : Writer) (indentation : Indentation) : Except Error Writer := do
  let depth ← indentation.depth
  return { writer with level := depth.level writer.options.width }

/-- Sets the level of the lines after the next line break. -/
def queueLevel (writer : Writer) (indentation : Indentation) : Except Error Writer := do
  let depth ← indentation.depth
  return { writer with queued := some (depth.level writer.options.width) }

end Writer

end SourceWriter
