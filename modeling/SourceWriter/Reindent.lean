import SourceWriter.Writer.Content

/-! # Reindenting

A text is reindented by writing it with a fresh writer at the wanted level: its lines get the
indentation, except those that start in a string literal, and all line ends become the
configured one.
-/

namespace SourceWriter

/-- Indents all lines of a text that do not start in a string literal. -/
def reindent (text : Text) (options : Options) (indentation : Indentation) :
    Except Error Text := do
  let fresh ← Writer.new options
  let leveled ← fresh.setLevel indentation
  return (leveled.write text).text

end SourceWriter
