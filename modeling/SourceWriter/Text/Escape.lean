import SourceWriter.Text.Basic

/-! # Escaping for string literals

A text that goes between two quotes gets a backslash in front of every quote and of every line
break. Reading back drops exactly these backslashes: the ones right before a quote or a line
break.
-/

namespace SourceWriter.Text

/-- Puts a backslash in front of every occurrence of one character. -/
def escapeChar (text : Text) (character : Char) : Text :=
  text.flatMap fun current => if current = character then ['\\', current] else [current]

/-- Puts a backslash in front of every line feed, or of the carriage return that belongs to
it. -/
def escapeLineBreaks : Text → Text
  | [] => []
  | '\r' :: '\n' :: rest => '\\' :: '\r' :: '\n' :: escapeLineBreaks rest
  | '\n' :: rest => '\\' :: '\n' :: escapeLineBreaks rest
  | character :: rest => character :: escapeLineBreaks rest

/-- Makes a text fit to stand between two quotes. -/
def escapeWithin (text : Text) (quote : Char) : Text :=
  escapeLineBreaks (escapeChar text quote)

/-- Whether a text starts with what an escaping backslash stands in front of. -/
def startsEscaped (quote : Char) : Text → Bool
  | '\r' :: '\n' :: _ => true
  | '\n' :: _ => true
  | character :: _ => character == quote
  | [] => false

/-- Drops each backslash that stands right before a quote or a line break. -/
def unescapeWithin (quote : Char) : Text → Text
  | [] => []
  | character :: rest =>
    if character = '\\' ∧ startsEscaped quote rest then unescapeWithin quote rest
    else character :: unescapeWithin quote rest

end SourceWriter.Text
