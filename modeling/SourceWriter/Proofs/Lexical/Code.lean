import Mathlib.Algebra.Ring.Parity
import Mathlib.Data.List.Induction
import SourceWriter.Lexical.Feed
import SourceWriter.Proofs.Text.Prefix

/-! # Reading on from code

Code is what is outside of comments, literals and regular expressions. Where no mark of a comment
and no regular expression can start, a character only opens and closes contexts
(`State.update_within`). It is escaped exactly if an odd number of backslashes stand right before
it (`State.escaping_feed`).
-/

namespace SourceWriter

namespace Lexical

/-- Only quotes and braces open or close contexts. -/
theorem contextsAfter_of_plain {current : Char} (noQuote : Quote.ofChar? current = none)
    (noOpening : current ≠ '{') (noClosing : current ≠ '}') (contexts : List Context)
    (last : Option Char) (escaped lastEscaped : Bool) :
    contextsAfter contexts last current escaped lastEscaped = contexts := by
  simp only [contextsAfter, noQuote]
  split
  · contradiction
  · contradiction
  · rfl

/-- Characters without a meaning leave the contexts as they are. -/
theorem contextsAfter_of_insignificant {current : Char} (plain : isSignificant current = false)
    (contexts : List Context) (last : Option Char) (escaped lastEscaped : Bool) :
    contextsAfter contexts last current escaped lastEscaped = contexts := by
  apply contextsAfter_of_plain
  · cases found : Quote.ofChar? current with
    | none => rfl
    | some quote =>
        obtain rfl := Quote.ofChar?_eq_some_iff.mp found
        cases quote <;> contradiction
  · rintro rfl
    contradiction
  · rintro rfl
    contradiction

/-- The innermost context is no literal, so that what follows is code. -/
def Unquoted (contexts : List Context) : Prop :=
  ∀ quote outer, contexts ≠ .literal quote :: outer

namespace State

/-- The text before the next character is in no comment, no literal and no regular expression. -/
structure InCode (state : State) : Prop where
  comment : state.inComment = false
  string : state.inString = false
  regex : state.inRegex = false

/-- The state in these contexts, outside of comments and regular expressions. -/
def within (contexts : List Context) (escaping justEscaped : Bool) : State :=
  { contexts, escaping, justEscaped }

/-- A state in code consists of contexts whose innermost one is no literal, and of its memory of
escapes. -/
theorem InCode.exists_within {state : State} (code : state.InCode) :
    ∃ contexts escaping justEscaped, Unquoted contexts ∧
      state = within contexts escaping justEscaped := by
  obtain ⟨comment, contexts, inRegex, escaping, justEscaped⟩ := state
  obtain ⟨uncommented, unquoted, closed⟩ := code
  obtain rfl : comment = none := by simpa [inComment] using uncommented
  obtain rfl : inRegex = false := closed
  refine ⟨contexts, escaping, justEscaped, ?_, rfl⟩
  rintro quote outer rfl
  contradiction

theorem InCode.unquoted {state : State} (code : state.InCode) : Unquoted state.contexts := by
  obtain ⟨contexts, escaping, justEscaped, unquoted, rfl⟩ := code.exists_within
  exact unquoted

theorem inString_of_unquoted {state : State} (code : Unquoted state.contexts) :
    state.inString = false := by
  unfold inString
  split
  · rename_i same
    exact absurd same (code _ _)
  · rfl

/-- Neither a comment nor a regular expression can start where the last character is no slash. -/
theorem startsRegex_of_ne_slash {behind : LookBehind} (noSlash : behind.last ≠ some '/')
    (current : Char) : startsRegex behind current = false := by
  simp [startsRegex, noSlash]

theorem commentAfter_of_ne_slash {last : Option Char} (noSlash : last ≠ some '/')
    (current : Char) : commentAfter none last current = none := by
  unfold commentAfter
  split <;> simp_all

section

variable {contexts : List Context} {escaping justEscaped : Bool} {behind : LookBehind}
  (hidden : (within contexts escaping justEscaped).inString = true ∨ behind.last ≠ some '/')

include hidden

theorem nest_within (current : Char) :
    (within contexts escaping justEscaped).nest behind.last current =
      within (contextsAfter contexts behind.last current escaping justEscaped) escaping
        justEscaped := by
  by_cases inside : (within contexts escaping justEscaped).inString = true
  · simp only [nest, inside, ↓reduceIte]
    rfl
  · have noSlash := hidden.resolve_left inside
    have comment : commentAfter (within contexts escaping justEscaped).comment behind.last current =
        none := commentAfter_of_ne_slash noSlash current
    simp only [nest, inside, comment]
    rfl

/-- In a literal, and in code that does not follow a slash, a character only opens and closes
contexts. -/
theorem update_within (current : Char) :
    (within contexts escaping justEscaped).update behind current =
      within (contextsAfter contexts behind.last current escaping justEscaped)
        (current == '\\' && !escaping) escaping := by
  have closed : (within contexts escaping justEscaped).inRegex = false := rfl
  have unopened : (!(within contexts escaping justEscaped).inString &&
      !(within contexts escaping justEscaped).inComment && startsRegex behind current) = false := by
    rcases hidden with inside | noSlash
    · rw [inside, Bool.not_true, Bool.false_and, Bool.false_and]
    · rw [startsRegex_of_ne_slash noSlash, Bool.and_false]
  have advanced : (within contexts escaping justEscaped).advance behind current =
      within (contextsAfter contexts behind.last current escaping justEscaped) escaping
        justEscaped := by
    by_cases significant : isSignificant current = true
    · simp only [advance, closed, significant, unopened, ↓reduceIte, Bool.false_eq_true]
      exact nest_within hidden current
    · have plain : isSignificant current = false := Bool.not_eq_true _ ▸ significant
      simp only [advance, closed, plain, ↓reduceIte, Bool.false_eq_true]
      rw [contextsAfter_of_insignificant plain]
  rw [update, advanced]
  rfl

end

/-- Comments and contexts move on beside regular expressions. -/
theorem inRegex_nest (state : State) (last : Option Char) (current : Char) :
    (state.nest last current).inRegex = state.inRegex := by
  simp only [nest]
  cases state.inString <;> simp only [Bool.false_eq_true, ↓reduceIte] <;> split <;> rfl

theorem feed_concat (state : State) (previous text : Text) (character : Char) :
    state.feed previous (text ++ [character]) =
      (state.feed previous text).update (.ofText (previous ++ text)) character := by
  rw [feed_append, feed_cons, feed_nil]

/-- A character was escaped if a backslash was escaping before it. -/
theorem justEscaped_feed_concat (state : State) (previous text : Text) (character : Char) :
    (state.feed previous (text ++ [character])).justEscaped =
      (state.feed previous text).escaping := by
  rw [feed_concat]
  rfl

/-- A character is escaped exactly if an odd number of backslashes stand right before it. -/
theorem escaping_feed {state : State} (unescaping : state.escaping = false)
    (previous text : Text) :
    (state.feed previous text).escaping = true ↔ Odd text.backslashesAtEnd := by
  induction text using List.reverseRecOn with
  | nil => simp [unescaping, Text.backslashesAtEnd]
  | append_singleton text character ih =>
      rw [feed_concat, Text.backslashesAtEnd_concat]
      by_cases backslash : character = '\\'
      · simp [update, backslash, Nat.odd_add_one, ← ih]
      · simp [update, backslash]

end State

end Lexical

end SourceWriter
