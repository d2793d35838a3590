import SourceWriter.Lexical.Basic

/-! # Feeding text to the lexical state

The state moves on by one character at a time, which it sees together with the two characters
before it. Text that was read is never read again: feeding two texts in turn is feeding their
concatenation (`State.feed_append`).
-/

namespace SourceWriter.Lexical

/-- The two characters right before a position. -/
structure LookBehind where
  beforeLast : Option Char
  last : Option Char
  deriving DecidableEq

/-- The characters to look back at from the end of a text. -/
def LookBehind.ofText (text : Text) : LookBehind :=
  ⟨text.dropLast.getLast?, text.getLast?⟩

/-- The same, for a text whose last character comes first. -/
def LookBehind.ofReversed (reversed : Text) : LookBehind :=
  ⟨reversed.tail.head?, reversed.head?⟩

/-- Looking back does not depend on the order a text is held in. -/
theorem LookBehind.ofReversed_eq (reversed : Text) :
    ofReversed reversed = ofText reversed.reverse := by
  simp [ofReversed, ofText]

/-- The two characters to look back at after one more character. -/
def LookBehind.push (behind : LookBehind) (character : Char) : LookBehind :=
  ⟨behind.last, some character⟩

@[simp] theorem LookBehind.ofText_concat (text : Text) (character : Char) :
    ofText (text ++ [character]) = (ofText text).push character := by
  simp [ofText, push]

/-- Whether a character can change the state outside regular expression literals. -/
def isSignificant : Char → Bool
  | '/' | '\\' | '\n' | '\r' | '*' | '"' | '\'' | '`' | '{' | '}' => true
  | _ => false

/-- Whether a slash before this character opens a regular expression: the slash must not be the
tail of a comment's mark, nor the character make it the head of one. -/
def startsRegex (behind : LookBehind) (current : Char) : Bool :=
  behind.last == some '/' && current != '/' && current != '*' &&
    behind.beforeLast != some '*' && behind.beforeLast != some '/'

/-- The comment after one more character outside literals. -/
def commentAfter (comment : Option Comment) (last : Option Char) (current : Char) :
    Option Comment :=
  match comment, last, current with
  | none, some '/', '/' => some .line
  | none, some '/', '*' => some .block
  | some .block, some '*', '/' => none
  | _, _, _ => comment

/-- The contexts after an unescaped quote: it closes the literal that it opened, is plain content
of any other literal, and opens one in code. -/
def contextsAfterQuote (contexts : List Context) (quote : Quote) : List Context :=
  match contexts with
  | .literal opened :: outer => if opened = quote then outer else contexts
  | _ => .literal quote :: contexts

/-- The contexts after one more character outside comments. A hole opens in a template literal
at an opening brace after an unescaped dollar sign, and closes at the next closing brace. -/
def contextsAfter (contexts : List Context) (last : Option Char) (current : Char)
    (escaped lastEscaped : Bool) : List Context :=
  match Quote.ofChar? current, escaped with
  | some quote, false => contextsAfterQuote contexts quote
  | _, _ =>
    match current, contexts with
    | '{', .literal .backtick :: _ =>
      if last = some '$' ∧ lastEscaped = false then .hole :: contexts else contexts
    | '}', .hole :: outer => outer
    | _, _ => contexts

namespace State

/-- The comment and the contexts move on: a literal hides the marks of comments, and a comment
hides everything else. -/
def nest (state : State) (last : Option Char) (current : Char) : State :=
  let comment :=
    if state.inString then state.comment else commentAfter state.comment last current
  if comment.isSome then { state with comment }
  else
    { state with
      comment
      contexts :=
        contextsAfter state.contexts last current state.escaping state.justEscaped }

/-- Whether the regular expression has ended before the next character: at an unescaped slash
or a line feed. -/
def regexEnded (state : State) (last : Option Char) : Bool :=
  (last == some '/' && !state.justEscaped) || last == some '\n'

/-- All of the state but its memory of escapes moves on by one character. -/
def advance (state : State) (behind : LookBehind) (current : Char) : State :=
  if state.inRegex then
    if state.regexEnded behind.last then
      { state with inRegex := false }.nest behind.last current
    else state
  else if isSignificant current then
    if !state.inString && !state.inComment && startsRegex behind current then
      { state with inRegex := true }
    else state.nest behind.last current
  else state

/-- The state after one more character. A backslash that is not escaped itself escapes the next
character, wherever it stands. -/
def update (state : State) (behind : LookBehind) (current : Char) : State :=
  { state.advance behind current with
    escaping := current == '\\' && !state.escaping
    justEscaped := state.escaping }

/-- The state after the characters of a text, one after the other, each with the two before it. -/
def feedFrom (state : State) (behind : LookBehind) : Text → State
  | [] => state
  | current :: rest => (state.update behind current).feedFrom (behind.push current) rest

/-- The state after a text is appended to what was there before. -/
def feed (state : State) (previous text : Text) : State :=
  state.feedFrom (.ofText previous) text

/-- The state after the end of a line: line comments, regular expressions and escapes do not
reach beyond it. -/
def endLine (state : State) : State :=
  { state with
    comment := if state.comment = some .line then none else state.comment
    inRegex := false
    escaping := false
    justEscaped := false }

@[simp] theorem feed_nil (state : State) (previous : Text) : state.feed previous [] = state := rfl

/-- Feeding a text is one step for its first character, and feeding the others after that. -/
theorem feed_cons (state : State) (previous : Text) (current : Char) (rest : Text) :
    state.feed previous (current :: rest) =
      (state.update (.ofText previous) current).feed (previous ++ [current]) rest := by
  simp [feed, feedFrom]

/-- Feeding a text piece by piece is feeding it whole. -/
theorem feed_append (state : State) (previous first second : Text) :
    state.feed previous (first ++ second) =
      (state.feed previous first).feed (previous ++ first) second := by
  induction first generalizing state previous with
  | nil => simp
  | cons current rest ih => simp [feed_cons, ih]

end State

end SourceWriter.Lexical
