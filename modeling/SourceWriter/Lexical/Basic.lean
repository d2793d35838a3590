import SourceWriter.Text.Basic

/-! # What the end of a text is inside of

The lexical state tells, at the end of the text read so far, whether it is inside a comment, a
string literal or a regular expression literal. Template literals may hold code in `${ }`, and
that code may hold literals again, so the open literals and holes form a stack. The state is no
token stream: it knows just enough of C-like source text to answer these three questions.
-/

namespace SourceWriter.Lexical

/-- The quotes that open and close a string literal. -/
inductive Quote where
  | single
  | double
  /-- The grave accent of a template literal, which may have holes. -/
  | backtick
  deriving DecidableEq

/-- The quote that a character stands for. -/
def Quote.ofChar? : Char → Option Quote
  | '\'' => some .single
  | '"' => some .double
  | '`' => some .backtick
  | _ => none

/-- The character that writes a quote. -/
def Quote.char : Quote → Char
  | .single => '\''
  | .double => '"'
  | .backtick => '`'

@[simp] theorem Quote.ofChar?_char (quote : Quote) : ofChar? quote.char = some quote := by
  cases quote <;> rfl

/-- A quote is written by one character only. -/
theorem Quote.ofChar?_eq_some_iff {character : Char} {quote : Quote} :
    ofChar? character = some quote ↔ character = quote.char := by
  constructor
  · intro found
    unfold ofChar? at found
    split at found <;> cases found <;> rfl
  · rintro rfl
    exact ofChar?_char quote

/-- What is open around the end of the text. -/
inductive Context where
  /-- A string literal that this quote opened. -/
  | literal (quote : Quote)
  /-- A hole of a template literal: what stands in it is code. -/
  | hole
  deriving DecidableEq

/-- The two kinds of comments. -/
inductive Comment where
  | line
  | block
  deriving DecidableEq

/-- The lexical state at the end of a text. -/
structure State where
  comment : Option Comment := none
  /-- The open literals and holes, innermost first. -/
  contexts : List Context := []
  inRegex : Bool := false
  /-- Whether the last character is a backslash that escapes the next one. -/
  escaping : Bool := false
  /-- Whether a backslash escaped the last character. -/
  justEscaped : Bool := false
  deriving DecidableEq

namespace State

/-- Whether the end of the text is inside of a comment, of either kind. -/
def inComment (state : State) : Bool :=
  state.comment.isSome

/-- Whether the innermost open context is a literal: code in a hole is not in a string, although
the hole is. -/
def inString (state : State) : Bool :=
  match state.contexts with
  | .literal _ :: _ => true
  | _ => false

end State

end SourceWriter.Lexical
