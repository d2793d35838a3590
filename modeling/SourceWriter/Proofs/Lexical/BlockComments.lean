import SourceWriter.Proofs.Lexical.Code

/-! # Block comments

A block comment ends at the first star with a slash behind it, whatever else stands in it
(`State.InBlock.feed`). The star of the opening mark is such a star as well: a slash right behind
the mark ends the comment that has just been opened. So a block comment spans exactly to the next
closing mark if its body does not start with a slash, and in no other case
(`State.blockComment_iff`).
-/

namespace SourceWriter.Lexical

/-- Nothing but a slash behind a star ends a block comment. -/
theorem commentAfter_block {last : Option Char} {current : Char}
    (unended : last = some '*' → current ≠ '/') :
    commentAfter (some .block) last current = some .block := by
  unfold commentAfter
  split
  · contradiction
  · contradiction
  · exact absurd rfl (unended rfl)
  · rfl

namespace State

/-- The text before the next character is in a block comment that was opened in these contexts. -/
structure InBlock (contexts : List Context) (state : State) : Prop where
  comment : state.comment = some .block
  around : state.contexts = contexts
  regex : state.inRegex = false

namespace InBlock

variable {contexts : List Context} {state : State}

/-- A block comment goes on with every character but the slash after a star. -/
theorem update (inBlock : state.InBlock contexts) {behind : LookBehind} {current : Char}
    (unended : behind.last = some '*' → current ≠ '/') :
    (state.update behind current).InBlock contexts := by
  obtain ⟨comment, around, regex⟩ := inBlock
  have nested : state.nest behind.last current = state := by
    simp only [nest, comment, commentAfter_block unended, ite_self, Option.isSome_some, ↓reduceIte]
    rw [← comment]
  have advanced : state.advance behind current = state := by
    simp [advance, regex, inComment, comment, nested]
  rw [State.update, advanced]
  exact ⟨comment, around, regex⟩

/-- A line end ends no block comment. -/
theorem endLine (inBlock : state.InBlock contexts) : state.endLine.InBlock contexts := by
  obtain ⟨comment, around, _⟩ := inBlock
  refine ⟨?_, around, rfl⟩
  rw [State.endLine, comment]
  rfl

/-- Without a slash a block comment goes on, whatever stands before. -/
theorem feed_of_not_mem (inBlock : state.InBlock contexts) {text : Text} (noSlash : '/' ∉ text)
    (previous : Text) : (state.feed previous text).InBlock contexts := by
  induction text generalizing state previous with
  | nil => exact inBlock
  | cons current rest ih =>
      obtain ⟨other, later⟩ := not_or.mp (mt List.mem_cons.mpr noSlash)
      rw [feed_cons]
      exact ih (inBlock.update fun _ => Ne.symm other) later _

/-- Without a closing mark a block comment goes on, also where the mark would start with the last
character before the text. -/
theorem feed (inBlock : state.InBlock contexts) {previous text : Text} {last : Char}
    (behind : previous.getLast? = some last) (unended : ¬ ['*', '/'] <:+: last :: text) :
    (state.feed previous text).InBlock contexts := by
  induction text generalizing state previous last with
  | nil => exact inBlock
  | cons current rest ih =>
      have goesOn : (state.update (.ofText previous) current).InBlock contexts := by
        apply inBlock.update
        rintro star rfl
        obtain rfl : last = '*' := Option.some.inj (behind.symm.trans star)
        exact unended (List.prefix_append ['*', '/'] rest).isInfix
      rw [feed_cons]
      apply ih goesOn List.getLast?_concat
      intro mark
      exact unended (List.infix_cons mark)

/-- Where a block comment was opened in code, a slash behind a star leads back to that code. -/
theorem update_mark (inBlock : state.InBlock contexts) (code : Unquoted contexts)
    {behind : LookBehind} (star : behind.last = some '*') :
    state.update behind '/' = within contexts false state.escaping := by
  obtain ⟨comment, rfl, regex⟩ := inBlock
  have outside : state.inString = false := inString_of_unquoted code
  have advanced : state.advance behind '/' = { state with comment := none } := by
    simp [advance, nest, isSignificant, regex, inComment, comment, outside, star, commentAfter,
      contextsAfter, Quote.ofChar?]
  rw [State.update, advanced, regex]
  rfl

/-- A slash behind a star ends a block comment in code. -/
theorem update_end (inBlock : state.InBlock contexts) (code : Unquoted contexts)
    {behind : LookBehind} (star : behind.last = some '*') :
    (state.update behind '/').comment = none ∧ (state.update behind '/').contexts = contexts := by
  rw [inBlock.update_mark code star]
  exact ⟨rfl, rfl⟩

end InBlock

/-- A star behind a slash in code opens a block comment. -/
theorem inBlock_of_star {state : State} (code : state.InCode) {behind : LookBehind}
    (slash : behind.last = some '/') : (state.update behind '*').InBlock state.contexts := by
  obtain ⟨uncommented, outside, regex⟩ := code
  have comment : state.comment = none := by simpa [inComment] using uncommented
  have advanced : state.advance behind '*' = { state with comment := some .block } := by
    simp [advance, nest, isSignificant, startsRegex, regex, comment, outside, slash, commentAfter]
  rw [State.update, advanced]
  exact ⟨rfl, rfl, regex⟩

/-- The opening mark in code opens a block comment. -/
theorem inBlock_of_mark {state : State} (code : state.InCode) {previous : Text}
    (noSlash : previous.getLast? ≠ some '/') :
    (state.feed previous ['/', '*']).InBlock state.contexts := by
  obtain ⟨contexts, escaping, justEscaped, unquoted, rfl⟩ := code.exists_within
  have slash : (within contexts escaping justEscaped).update (.ofText previous) '/' =
      within contexts false escaping := by
    rw [update_within (.inr noSlash)]
    rfl
  have behind : (LookBehind.ofText (previous ++ ['/'])).last = some '/' := List.getLast?_concat
  have inCode : (within contexts false escaping).InCode := ⟨rfl, inString_of_unquoted unquoted, rfl⟩
  rw [feed_cons, slash, feed_cons, feed_nil]
  exact inBlock_of_star inCode behind

/-- **Block comments.** From the opening mark in code, through each part of a body without a closing
mark, the text is in a block comment and nothing else changes, and the closing mark ends it,
exactly if the body does not start with a slash. -/
theorem blockComment_iff {state : State} (code : state.InCode) {previous : Text}
    (noSlash : previous.getLast? ≠ some '/') {body : Text} (unended : ¬ ['*', '/'] <:+: body) :
    let after (part : Text) := state.feed previous ('/' :: '*' :: part)
    (∀ part, part <+: body → (after part).comment = some .block ∧
          (after part).contexts = state.contexts ∧ (after part).inRegex = state.inRegex) ∧
        (after (body ++ ['*', '/'])).comment = none ∧
        (after (body ++ ['*', '/'])).contexts = state.contexts ↔
      body.head? ≠ some '/' := by
  intro after
  have opened := inBlock_of_mark code noSlash
  have mark : (previous ++ ['/', '*']).getLast? = some '*' := by simp
  have behindMark (part : Text) :
      after part = (state.feed previous ['/', '*']).feed (previous ++ ['/', '*']) part :=
    feed_append state previous ['/', '*'] part
  constructor
  · rintro ⟨inside, _⟩ slash
    obtain ⟨rest, rfl⟩ : ∃ rest, body = '/' :: rest :=
      ⟨body.tail, (List.cons_head?_tail slash).symm⟩
    have goesOn := (inside ['/'] (List.prefix_append ['/'] rest)).1
    rw [behindMark, feed_cons, feed_nil, (opened.update_end code.unquoted mark).1] at goesOn
    contradiction
  · intro noSlash
    have unendedMark : ¬ ['*', '/'] <:+: '*' :: body := by
      rw [List.infix_cons_iff, not_or]
      refine ⟨?_, unended⟩
      rintro ⟨rest, same⟩
      obtain rfl : '/' :: rest = body := (List.cons.inj same).2
      contradiction
    have inBlock {part : Text} (passed : part <+: body) : (after part).InBlock state.contexts := by
      rw [behindMark]
      apply opened.feed mark
      intro inside
      exact unendedMark (inside.trans (List.cons_prefix_cons.mpr ⟨rfl, passed⟩).isInfix)
    refine ⟨fun part passed => ?_, ?_⟩
    · obtain ⟨comment, around, regex⟩ := inBlock passed
      exact ⟨comment, around, regex.trans code.regex.symm⟩
    · have starred : (after (body ++ ['*'])).InBlock state.contexts := by
        have whole := inBlock (List.prefix_refl body)
        rw [behindMark] at whole ⊢
        rw [feed_concat]
        exact whole.update fun _ => by decide
      have star : (previous ++ ['/', '*'] ++ (body ++ ['*'])).getLast? = some '*' := by
        rw [← List.append_assoc, List.getLast?_concat]
      have closing : body ++ ['*', '/'] = body ++ ['*'] ++ ['/'] := by simp
      rw [closing, behindMark, feed_concat, ← behindMark]
      exact starred.update_end code.unquoted star

/-- A block comment in a hole, behind an escaping backslash, with marks of comments and literals in
it and stars right before its end. -/
theorem blockComment_of_marks :
    let state : State := { contexts := [.hole, .literal .backtick], escaping := true }
    let previous : Text := ['`', '$', '{', '\\']
    let body : Text := ['*', '\'', '`', '$', '{', '/', '*', '\n', '/', '/', '*', '*']
    let after (part : Text) := state.feed previous ('/' :: '*' :: part)
    state.InCode ∧ previous.getLast? ≠ some '/' ∧ ¬ ['*', '/'] <:+: body ∧
      (∀ part, part <+: body → (after part).comment = some .block ∧
        (after part).contexts = state.contexts ∧ (after part).inRegex = state.inRegex) ∧
      (after (body ++ ['*', '/'])).comment = none ∧
      (after (body ++ ['*', '/'])).contexts = state.contexts := by
  intro state previous body after
  have code : state.InCode := ⟨rfl, rfl, rfl⟩
  have noSlash : previous.getLast? ≠ some '/' := by decide
  have unended : ¬ ['*', '/'] <:+: body := by decide
  have starts : body.head? ≠ some '/' := by decide
  exact ⟨code, noSlash, unended, (blockComment_iff code noSlash unended).mpr starts⟩

/-- A body that starts with a slash is read as code, so that a quote in it opens a string, which the
closing mark does not end. -/
theorem not_forall_blockComment :
    (¬ ∀ (state : State) (previous body : Text), state.InCode → previous.getLast? ≠ some '/' →
      ¬ ['*', '/'] <:+: body →
      (∀ part, part <+: body →
        let after := state.feed previous ('/' :: '*' :: part)
        after.comment = some .block ∧ after.contexts = state.contexts ∧
          after.inRegex = state.inRegex) ∧
      let after := state.feed previous ('/' :: '*' :: (body ++ ['*', '/']))
      after.comment = none ∧ after.contexts = state.contexts) ∧
    (State.feed {} [] ['/', '*', '/', '\'', '*', '/']).contexts = [.literal .single] := by
  refine ⟨?_, by decide⟩
  intro always
  have code : ({} : State).InCode := ⟨rfl, rfl, rfl⟩
  have spans := (always {} [] ['/', '\''] code (by decide) (by decide)).1 ['/'] (by decide)
  exact absurd spans.1 (by decide)

end State

end SourceWriter.Lexical
