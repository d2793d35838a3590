import SourceWriter.Error

/-! # Options

How a writer ends lines, indents them and quotes. Input may use either line terminator; what is
written always uses the configured one.
-/

namespace SourceWriter

/-- The line terminators. -/
inductive Terminator where
  | lf
  | crlf
  deriving DecidableEq

namespace Terminator

/-- What is written for a line terminator. -/
def text : Terminator → Text
  | .lf => ['\n']
  | .crlf => ['\r', '\n']

/-- Reads a terminator; nothing but the two is accepted. -/
def ofText (text : Text) : Except Error Terminator :=
  if text = lf.text then .ok .lf
  else if text = crlf.text then .ok .crlf
  else .error (.invalidTerminator text)

@[simp] theorem ofText_text (terminator : Terminator) :
    ofText terminator.text = .ok terminator := by
  cases terminator <;> rfl

end Terminator

/-- The settings of a writer. -/
structure Options where
  terminator : Terminator := .lf
  /-- How many spaces make up one level, also where indentation text is read. -/
  width : Nat := 4
  /-- Whether a level is written as one tab instead of spaces. -/
  tabs : Bool := false
  /-- Whether literals are quoted with apostrophes. -/
  singleQuotes : Bool := false
  deriving DecidableEq

namespace Options

/-- The character that quotes a literal. -/
def quote (options : Options) : Char :=
  if options.singleQuotes then '\'' else '"'

/-- What is written for one whole level. -/
def unit (options : Options) : Text :=
  if options.tabs then ['\t'] else List.replicate options.width ' '

/-- Options are valid if a level is at least one space wide, even where tabs are written. -/
def Valid (options : Options) : Prop :=
  0 < options.width

instance (options : Options) : Decidable options.Valid :=
  inferInstanceAs (Decidable (0 < options.width))

/-- Refuses options that are not valid. -/
def validate (options : Options) : Except Error Unit :=
  if options.Valid then .ok () else .error .invalidWidth

end Options

end SourceWriter
