import SourceWriter.Proofs.Lexical.Code
import SourceWriter.Proofs.Writer.Stroke

/-! # One mode at a time

A lexical state holds its comment, its contexts and its regular expression apart, and one character
may end one of them and start another. Yet at most one of the three is ever open, literals and holes
alternate, and only a template literal holds a hole. No order of calls can undo this, whatever they
claim to look back at (`Lexical.modes_afterCalls`); so a writer that is asked after every
character what it is inside of has only four answers.
-/

namespace SourceWriter.Lexical

/-- Contexts whose innermost one is code: each hole is in a template literal, and that in code. -/
inductive EndInCode : List Context → Prop where
  | outermost : EndInCode []
  | hole {outer : List Context} (around : EndInCode outer) :
      EndInCode (.hole :: .literal .backtick :: outer)

/-- Contexts that alternate between literals and holes. -/
inductive Alternate : List Context → Prop where
  | code {contexts : List Context} (code : EndInCode contexts) : Alternate contexts
  | literal (quote : Quote) {outer : List Context} (around : EndInCode outer) :
      Alternate (.literal quote :: outer)

theorem Alternate.afterQuote {contexts : List Context} (alternate : Alternate contexts)
    (quote : Quote) : Alternate (contextsAfterQuote contexts quote) := by
  cases alternate with
  | literal opened around =>
      simp only [contextsAfterQuote]
      split
      · exact .code around
      · exact .literal opened around
  | code code =>
      cases code with
      | outermost => exact .literal quote .outermost
      | hole around => exact .literal quote (.hole around)

/-- No character breaks the alternation of literals and holes. -/
theorem Alternate.after {contexts : List Context} (alternate : Alternate contexts)
    (last : Option Char) (current : Char) (escaped lastEscaped : Bool) :
    Alternate (contextsAfter contexts last current escaped lastEscaped) := by
  unfold contextsAfter
  split
  · exact alternate.afterQuote _
  · split
    · -- A brace in a template literal: there is code around the literal, so a hole may open.
      split
      · cases alternate with
        | literal _ around => exact .code (.hole around)
        | code code => nomatch code
      · exact alternate
    · cases alternate with
      | code code =>
          cases code with
          | hole around => exact .literal .backtick around
    · exact alternate

/-- Counted from the outermost context, literals have the even positions and holes the odd ones. -/
theorem EndInCode.at_position {contexts : List Context} (code : EndInCode contexts) :
    contexts.length % 2 = 0 ∧
      ∀ position context, contexts.reverse[position]? = some context →
        context = if position % 2 = 0 then .literal .backtick else .hole := by
  induction code with
  | outermost => exact ⟨rfl, by simp⟩
  | @hole outer around ih =>
      obtain ⟨even, earlier⟩ := ih
      refine ⟨by simp only [List.length_cons]; omega, ?_⟩
      intro position context found
      rw [List.reverse_cons, List.reverse_cons, List.append_assoc] at found
      rcases Nat.lt_or_ge position outer.length with before | behind
      · rw [List.getElem?_append_left (by simpa using before)] at found
        exact earlier position context found
      · rw [List.getElem?_append_right (by simpa using behind), List.length_reverse] at found
        obtain ⟨offset, rfl⟩ := Nat.exists_eq_add_of_le behind
        rw [Nat.add_sub_cancel_left] at found
        match offset, found with
        | 0, found => simp_all
        | 1, found => simp_all [Nat.add_mod]

/-- Counted from the outermost one, the contexts at even positions are literals, and those with a
hole in them are template literals. -/
theorem Alternate.at_position {contexts : List Context} (alternate : Alternate contexts)
    {position : Nat} {context : Context} (found : contexts.reverse[position]? = some context) :
    ((∃ quote, context = .literal quote) ↔ position % 2 = 0) ∧
      ∀ quote, context = .literal quote → position + 1 ≠ contexts.length → quote = .backtick := by
  have inCode {around : List Context} (code : EndInCode around)
      (found : around.reverse[position]? = some context) :
      ((∃ quote, context = .literal quote) ↔ position % 2 = 0) ∧
        ∀ quote, context = .literal quote → quote = .backtick := by
    obtain rfl := code.at_position.2 position context found
    split <;> simp_all
  cases alternate with
  | code code =>
      obtain ⟨even, backtick⟩ := inCode code found
      exact ⟨even, fun quote literal _ => backtick quote literal⟩
  | @literal opened outer around =>
      rw [List.reverse_cons] at found
      rcases Nat.lt_or_ge position outer.length with before | behind
      · rw [List.getElem?_append_left (by simpa using before)] at found
        obtain ⟨even, backtick⟩ := inCode around found
        exact ⟨even, fun quote literal _ => backtick quote literal⟩
      · -- The innermost literal is the only one that may be of any kind.
        have bound : position < outer.length + 1 := by
          have inside := (List.getElem?_eq_some_iff.mp found).1
          simpa using inside
        obtain rfl : position = outer.length := by omega
        obtain rfl : .literal opened = context := by simpa using found
        refine ⟨by simp [around.at_position.1], ?_⟩
        intro quote _ inner
        exact absurd rfl inner

namespace State

/-- A comment keeps strings out. -/
structure Apart (state : State) : Prop where
  alternate : Alternate state.contexts
  comment : state.inComment = true → state.inString = false

/-- A regular expression keeps both out, so that at most one mode is open. -/
structure Exclusive (state : State) : Prop extends Apart state where
  regex : state.inRegex = true → state.inComment = false ∧ state.inString = false

/-- Besides, at most one of two characters in a row is escaped. -/
structure Sound (state : State) : Prop extends Exclusive state where
  escapes : state.escaping = true → state.justEscaped = false

theorem sound_new : Sound {} :=
  ⟨⟨⟨.code .outermost, nofun⟩, nofun⟩, nofun⟩

/-- Comments open only outside of strings, and strings only outside of comments. -/
theorem Apart.nest {state : State} (apart : state.Apart) (last : Option Char) (current : Char) :
    (state.nest last current).Apart := by
  by_cases inside : state.inString = true
  · have outside : state.comment.isSome = false := by
      cases comment : state.comment with
      | none => rfl
      | some kind =>
          have excluded := apart.comment (by simp [inComment, comment])
          rw [inside] at excluded
          contradiction
    simp only [State.nest, inside, outside, ↓reduceIte, Bool.false_eq_true]
    refine ⟨apart.alternate.after _ _ _ _, ?_⟩
    intro commented
    rw [inComment, outside] at commented
    contradiction
  · rw [Bool.not_eq_true] at inside
    simp only [State.nest, inside, Bool.false_eq_true, ↓reduceIte]
    split
    · exact ⟨apart.alternate, fun _ => inside⟩
    · rename_i uncommented
      exact ⟨apart.alternate.after _ _ _ _, fun commented => absurd commented uncommented⟩

/-- A regular expression opens only where nothing else is open, and nothing else opens in it. -/
theorem Exclusive.advance {state : State} (exclusive : state.Exclusive) (behind : LookBehind)
    (current : Char) : (state.advance behind current).Exclusive := by
  have unclosed {other : State} (apart : other.Apart) (closed : other.inRegex = false) :
      (other.nest behind.last current).Exclusive := by
    refine ⟨apart.nest _ _, ?_⟩
    intro regex
    rw [inRegex_nest, closed] at regex
    contradiction
  unfold State.advance
  split
  · split
    · exact unclosed ⟨exclusive.alternate, exclusive.comment⟩ rfl
    · exact exclusive
  · rename_i closed
    split
    · split
      · rename_i opens
        simp only [Bool.and_eq_true, Bool.not_eq_true'] at opens
        obtain ⟨⟨outsideString, outsideComment⟩, _⟩ := opens
        exact ⟨⟨exclusive.alternate, exclusive.comment⟩,
          fun _ => ⟨outsideComment, outsideString⟩⟩
      · exact unclosed exclusive.toApart (Bool.not_eq_true _ ▸ closed)
    · exact exclusive

/-- One more character keeps a state sound, whatever it is claimed to follow. -/
theorem Sound.update {state : State} (sound : state.Sound) (behind : LookBehind)
    (current : Char) : (state.update behind current).Sound := by
  have moved := sound.toExclusive.advance behind current
  refine ⟨⟨⟨moved.alternate, moved.comment⟩, moved.regex⟩, ?_⟩
  -- The character that is escaped escapes nothing itself.
  intro escaping
  simp only [State.update, Bool.and_eq_true, Bool.not_eq_true'] at escaping
  exact escaping.2

theorem Sound.feedFrom {state : State} (sound : state.Sound) (behind : LookBehind)
    (text : Text) : (state.feedFrom behind text).Sound := by
  induction text generalizing state behind with
  | nil => exact sound
  | cons current rest ih => exact ih (sound.update behind current) _

theorem Sound.endLine {state : State} (sound : state.Sound) : state.endLine.Sound := by
  refine ⟨⟨⟨sound.alternate, ?_⟩, nofun⟩, nofun⟩
  intro commented
  apply sound.comment
  simp only [State.endLine, inComment] at commented
  split at commented
  · contradiction
  · exact commented

/-- What the text is inside of, as a number: one for a comment, two for a string, and four for a
regular expression. -/
def digit (state : State) : Nat :=
  state.inComment.toNat + 2 * state.inString.toNat + 4 * state.inRegex.toNat

/-- A sound state is in one of comment, string and regular expression at most. -/
theorem Sound.modes {state : State} (sound : state.Sound) :
    state.inComment.toNat + state.inString.toNat + state.inRegex.toNat ≤ 1 := by
  have comment := sound.comment
  have regex := sound.regex
  cases commented : state.inComment <;> cases quoted : state.inString <;>
    cases open_ : state.inRegex <;> simp_all

theorem Sound.digit_mem {state : State} (sound : state.Sound) : state.digit ∈ [0, 1, 2, 4] := by
  have modes := sound.modes
  unfold digit
  revert modes
  cases state.inComment <;> cases state.inString <;> cases state.inRegex <;> decide

end State

/-- What can be done with a lexical state. Nothing ties the characters that a call claims to look
back at to those of the calls before it. -/
inductive Call where
  | update (behind : LookBehind) (current : Char)
  | feed (previous text : Text)
  | endLine
  deriving DecidableEq

namespace State

/-- The state after one call. -/
def call (state : State) : Call → State
  | .update behind current => state.update behind current
  | .feed previous text => state.feed previous text
  | .endLine => state.endLine

/-- The state after several calls, in order. -/
def afterCalls (state : State) (calls : List Call) : State :=
  calls.foldl call state

/-- Calls keep a state sound, in any order and with any characters to look back at. -/
theorem Sound.afterCalls {state : State} (sound : state.Sound) (calls : List Call) :
    (state.afterCalls calls).Sound := by
  induction calls generalizing state with
  | nil => exact sound
  | cons first rest ih =>
      apply ih
      cases first with
      | update behind current => exact sound.update behind current
      | feed previous text => exact sound.feedFrom _ text
      | endLine => exact sound.endLine

end State

end SourceWriter.Lexical

namespace SourceWriter.Writer

open Lexical

/-- Whatever is written, the lexical state stays sound. -/
theorem sound_of_strokes {before after : Writer} (strokes : Strokes before after)
    (sound : before.lexical.Sound) : after.lexical.Sound := by
  induction strokes with
  | refl => exact sound
  | tail _ last ih =>
      cases last with
      | newLine => exact ih.endLine
      | put =>
          rw [put, lexical_append, lexical_startLine]
          exact ih.feedFrom _ _
      | owe => exact ih
      | arrange => exact ih

/-- The lexical state of a writer that can be reached is sound. -/
theorem Reachable.sound {writer : Writer} (reachable : writer.Reachable) :
    writer.lexical.Sound := by
  obtain ⟨created, passed⟩ := reachable
  obtain ⟨_, rfl⟩ := Writer.new_eq_ok_iff.mp created
  have reached := (Program.keeps_strokes _).atEnd_of_start .refl passed
  exact sound_of_strokes reached State.sound_new

/-- What a text is inside of before its first character and after each, where a writer is given one
character at a time. -/
def probe (writer : Writer) : Text → List Nat
  | [] => [writer.lexical.digit]
  | character :: rest => writer.lexical.digit :: (writer.write [character]).probe rest

theorem digit_mem_of_mem_probe {writer : Writer} (sound : writer.lexical.Sound) {text : Text}
    {digit : Nat} (member : digit ∈ writer.probe text) : digit ∈ [0, 1, 2, 4] := by
  induction text generalizing writer with
  | nil =>
      obtain rfl := List.mem_singleton.mp member
      exact sound.digit_mem
  | cons character rest ih =>
      rcases List.mem_cons.mp member with rfl | later
      · exact sound.digit_mem
      · exact ih (sound_of_strokes (marks_write writer [character]).strokes sound) later

end SourceWriter.Writer

namespace SourceWriter.Lexical

/-- **One mode at a time.** After any calls, literals and holes alternate from the outermost context
on, every literal but the innermost is a template literal, at most one mode is open, and no
character is both escaped and escaping. So every digit of a probe is one of four. -/
theorem modes_afterCalls :
    (∀ calls : List Call,
      let state := State.afterCalls {} calls
      (∀ position context, state.contexts.reverse[position]? = some context →
        ((∃ quote, context = .literal quote) ↔ position % 2 = 0) ∧
          ∀ quote, context = .literal quote → position + 1 ≠ state.contexts.length →
            quote = .backtick) ∧
        state.inComment.toNat + state.inString.toNat + state.inRegex.toNat ≤ 1 ∧
        ¬ (state.escaping = true ∧ state.justEscaped = true)) ∧
      ∀ writer : Writer, writer.Reachable →
        ∀ text, ∀ digit ∈ writer.probe text, digit ∈ [0, 1, 2, 4] := by
  constructor
  · intro calls state
    have sound : state.Sound := State.sound_new.afterCalls calls
    refine ⟨?_, sound.modes, ?_⟩
    · intro position context found
      exact sound.alternate.at_position found
    · rintro ⟨escaping, justEscaped⟩
      rw [sound.escapes escaping] at justEscaped
      contradiction
  · intro writer reachable text digit member
    exact Writer.digit_mem_of_mem_probe reachable.sound member

/-- One character ends a regular expression and starts a comment, and dollar signs that were never
written open a hole. -/
theorem modes_afterCalls_unwritten :
    let calls : List Call :=
      [.update ⟨none, some '/'⟩ '{', .update ⟨none, some '/'⟩ '*', .update ⟨none, some '*'⟩ '/',
        .feed [] ['`'], .update ⟨none, some '$'⟩ '{', .feed [] ['\'', '\\', '\\']]
    let state := State.afterCalls {} calls
    let writer : Writer := { options := {} }
    let text := ['/', '{', '/', '*', '\'', '*', '/', '`', '$', '{', '\'']
    state.contexts = [.literal .single, .hole, .literal .backtick] ∧
      state.contexts.reverse[1]? = some .hole ∧
      ((∃ quote, Context.hole = .literal quote) ↔ 1 % 2 = 0) ∧
      state.inComment.toNat + state.inString.toNat + state.inRegex.toNat ≤ 1 ∧
      ¬ (state.escaping = true ∧ state.justEscaped = true) ∧
      writer.Reachable ∧ writer.probe text = [0, 0, 4, 4, 1, 1, 1, 0, 2, 2, 0, 2] ∧
      ∀ digit ∈ writer.probe text, digit ∈ [0, 1, 2, 4] := by
  intro calls state writer text
  obtain ⟨ofCalls, ofProbes⟩ := modes_afterCalls
  obtain ⟨positions, modes, escapes⟩ := ofCalls calls
  have contexts : state.contexts = [.literal .single, .hole, .literal .backtick] := by
    decide +kernel
  have second : state.contexts.reverse[1]? = some .hole := by rw [contexts]; rfl
  have created : Writer.new {} = .ok writer := rfl
  have passed : [] <+: Program.done.trace writer := List.nil_prefix
  have reachable : writer.Reachable := .atEnd created passed
  have digits : writer.probe text = [0, 0, 4, 4, 1, 1, 1, 0, 2, 2, 0, 2] := by decide +kernel
  exact ⟨contexts, second, (positions 1 .hole second).1, modes, escapes, reachable, digits,
    ofProbes writer reachable text⟩

end SourceWriter.Lexical
