import SourceWriter.Proofs.Lexical.Code

/-! # String literals

Between two quotes of a kind, the content of a string literal is a sequence of units: a character
other than the quote and the backslash, or a backslash with the one character that it escapes.
Whatever the units are, the literal is the innermost context until the second quote closes it, and
no other text between two quotes is read like this (`State.string_accepted_iff`).
-/

namespace SourceWriter.Lexical

/-- What can stand between two quotes of a string literal. -/
inductive StringContent (quote : Char) : Text → Prop where
  | empty : StringContent quote []
  | plain {current : Char} {rest : Text} (noQuote : current ≠ quote) (noBackslash : current ≠ '\\')
      (following : StringContent quote rest) : StringContent quote (current :: rest)
  | escape (escaped : Char) {rest : Text} (following : StringContent quote rest) :
      StringContent quote ('\\' :: escaped :: rest)

theorem Quote.char_ne_backslash (quote : Quote) : quote.char ≠ '\\' := by
  cases quote <;> decide

/-- An unescaped quote in code opens a literal. -/
theorem contextsAfter_of_opening {contexts : List Context} (code : Unquoted contexts)
    (quote : Quote) (last : Option Char) (lastEscaped : Bool) :
    contextsAfter contexts last quote.char false lastEscaped = .literal quote :: contexts := by
  simp only [contextsAfter, Quote.ofChar?_char]
  unfold contextsAfterQuote
  split
  · exact absurd rfl (code _ _)
  · rfl

/-- A literal stays open but at its quote and where a hole opens in it. -/
theorem contextsAfter_of_content {quote : Quote} {current : Char} {last : Option Char}
    {escaped lastEscaped : Bool} (unclosed : current = quote.char → escaped = true)
    (noHole : quote = .backtick → current = '{' → last = some '$' → lastEscaped = true)
    (outer : List Context) :
    contextsAfter (.literal quote :: outer) last current escaped lastEscaped =
      .literal quote :: outer := by
  unfold contextsAfter
  split
  · rename_i found
    rw [contextsAfterQuote, if_neg]
    rintro rfl
    exact absurd (unclosed (Quote.ofChar?_eq_some_iff.mp found)) (by decide)
  · split
    · rename_i same _
      obtain rfl : quote = .backtick := by simpa using (List.cons.inj same).1
      rw [if_neg]
      rintro ⟨dollar, unescaped⟩
      rw [noHole rfl rfl dollar] at unescaped
      contradiction
    · rename_i same _
      exact absurd (List.cons.inj same).1 (by simp)
    · rfl

namespace State

variable {quote : Quote} {outer : List Context} {justEscaped : Bool}

/-- A quote in code opens a literal, unless it starts a regular expression. -/
theorem update_opening {contexts : List Context} (code : Unquoted contexts) {behind : LookBehind}
    (noSlash : behind.last ≠ some '/') (quote : Quote) :
    (within contexts false justEscaped).update behind quote.char =
      within (.literal quote :: contexts) false false := by
  rw [update_within (.inr noSlash), contextsAfter_of_opening code,
    beq_false_of_ne quote.char_ne_backslash, Bool.false_and]

/-- A quote in code opens a literal. -/
theorem feed_opening {contexts : List Context} (code : Unquoted contexts) {previous : Text}
    (noSlash : previous.getLast? ≠ some '/') (quote : Quote) (text : Text) :
    (within contexts false justEscaped).feed previous (quote.char :: text) =
      (within (.literal quote :: contexts) false false).feed (previous ++ [quote.char]) text := by
  rw [feed_cons, update_opening code noSlash]

/-- Content of a literal is neither its quote nor a backslash, and no brace that opens a hole. It
changes nothing. -/
theorem update_content {behind : LookBehind} {current : Char} (noQuote : current ≠ quote.char)
    (noBackslash : current ≠ '\\')
    (noHole : quote = .backtick → current = '{' → behind.last = some '$' → justEscaped = true) :
    (within (.literal quote :: outer) false justEscaped).update behind current =
      within (.literal quote :: outer) false false := by
  rw [update_within (.inl rfl), contextsAfter_of_content (absurd · noQuote) noHole,
    beq_false_of_ne noBackslash, Bool.false_and]

theorem update_backslash (behind : LookBehind) :
    (within (.literal quote :: outer) false justEscaped).update behind '\\' =
      within (.literal quote :: outer) true false := by
  have noQuote : '\\' ≠ quote.char := quote.char_ne_backslash.symm
  rw [update_within (.inl rfl), contextsAfter_of_content (absurd · noQuote) (by simp)]
  rfl

/-- An escaped character in a literal is content, whatever it is. -/
theorem update_escaped {behind : LookBehind} (backslash : behind.last = some '\\')
    (current : Char) :
    (within (.literal quote :: outer) true justEscaped).update behind current =
      within (.literal quote :: outer) false true := by
  rw [update_within (.inl rfl), contextsAfter_of_content (fun _ => rfl) (by simp [backslash]),
    Bool.not_true, Bool.and_false]

/-- The character that a backslash escapes leaves a literal open. -/
theorem feed_escape (previous : Text) (escaped : Char) (text : Text) :
    (within (.literal quote :: outer) false justEscaped).feed previous ('\\' :: escaped :: text) =
      (within (.literal quote :: outer) false true).feed (previous ++ ['\\', escaped]) text := by
  have backslash : (LookBehind.ofText (previous ++ ['\\'])).last = some '\\' := by
    simp [LookBehind.push]
  rw [feed_cons, feed_cons, update_backslash, update_escaped backslash, List.append_assoc]
  rfl

/-- An unescaped quote of its own kind closes a literal. -/
theorem update_closing (behind : LookBehind) :
    (within (.literal quote :: outer) false justEscaped).update behind quote.char =
      within outer false false := by
  rw [update_within (.inl rfl), beq_false_of_ne quote.char_ne_backslash]
  simp [contextsAfter, contextsAfterQuote]

end State

open State

variable {quote : Quote}

namespace StringContent

variable {content : Text}

/-- The content of a string literal leaves it open. -/
theorem feed (simple : quote ≠ .backtick) (inside : StringContent quote.char content)
    (outer : List Context) (justEscaped : Bool) (previous : Text) :
    ∃ lastEscaped, (within (.literal quote :: outer) false justEscaped).feed previous content =
      within (.literal quote :: outer) false lastEscaped := by
  induction inside generalizing justEscaped previous with
  | empty => exact ⟨justEscaped, rfl⟩
  | plain noQuote noBackslash following ih =>
      rw [feed_cons, update_content noQuote noBackslash (absurd · simple)]
      exact ih _ _
  | escape escaped following ih =>
      rw [feed_escape]
      exact ih _ _

/-- So does each of its prefixes, also one that ends in the middle of a unit. -/
theorem contexts_feed (simple : quote ≠ .backtick) (inside : StringContent quote.char content)
    (outer : List Context) (justEscaped : Bool) (previous : Text) {part : Text}
    (passed : part <+: content) :
    ((within (.literal quote :: outer) false justEscaped).feed previous part).contexts =
      .literal quote :: outer := by
  induction inside generalizing justEscaped previous part with
  | empty =>
      obtain rfl := List.prefix_nil.mp passed
      rfl
  | plain noQuote noBackslash following ih =>
      rcases List.prefix_cons_iff.mp passed with rfl | ⟨part, rfl, shorter⟩
      · rfl
      · rw [feed_cons, update_content noQuote noBackslash (absurd · simple)]
        exact ih _ _ shorter
  | escape escaped following ih =>
      rcases prefix_cons_cons_iff.mp passed with rfl | rfl | ⟨part, shorter, rfl⟩
      · rfl
      · rw [feed_cons, update_backslash, feed_nil]
        rfl
      · rw [feed_escape]
        exact ih _ _ shorter

/-- A literal that stays open after a character was not opened by this character. -/
theorem ne_quote_of_open {outer : List Context} {justEscaped : Bool} {previous rest : Text}
    {current : Char}
    (stays : ∀ part, part <+: current :: rest →
      ((within (.literal quote :: outer) false justEscaped).feed previous part).contexts =
        .literal quote :: outer) : current ≠ quote.char := by
  rintro rfl
  have opened := stays [quote.char] (List.prefix_append [quote.char] rest)
  rw [feed_cons, update_closing, feed_nil] at opened
  exact List.cons_ne_self _ _ opened.symm

/-- A string literal that no quote has closed holds units, and perhaps a backslash after them that
waits for what it escapes. -/
theorem of_open {outer : List Context} {justEscaped : Bool} {previous : Text}
    (simple : quote ≠ .backtick)
    (stays : ∀ part, part <+: content →
      ((within (.literal quote :: outer) false justEscaped).feed previous part).contexts =
        .literal quote :: outer) :
    StringContent quote.char content ∨
      ∃ units, StringContent quote.char units ∧ content = units ++ ['\\'] := by
  -- An escape takes two characters at once, any other unit one.
  induction content using List.twoStepInduction generalizing justEscaped previous with
  | nil => exact .inl .empty
  | singleton current =>
      by_cases backslash : current = '\\'
      · subst backslash
        exact .inr ⟨[], .empty, rfl⟩
      · exact .inl (.plain (ne_quote_of_open stays) backslash .empty)
  | cons_cons current next rest ihRest ihNext =>
      by_cases backslash : current = '\\'
      · subst backslash
        have staysBehind : ∀ part, part <+: rest →
            ((within (.literal quote :: outer) false true).feed (previous ++ ['\\', next])
              part).contexts = .literal quote :: outer := by
          intro part passed
          have whole := (List.prefix_append_right_inj ['\\', next]).mpr passed
          have opened := stays ('\\' :: next :: part) whole
          rwa [feed_escape] at opened
        rcases ihRest staysBehind with units | ⟨units, complete, rfl⟩
        · exact .inl (.escape next units)
        · exact .inr ⟨'\\' :: next :: units, .escape next complete, rfl⟩
      · have noQuote := ne_quote_of_open stays
        have staysBehind : ∀ part, part <+: next :: rest →
            ((within (.literal quote :: outer) false false).feed (previous ++ [current])
              part).contexts = .literal quote :: outer := by
          intro part passed
          have opened := stays (current :: part) (List.cons_prefix_cons.mpr ⟨rfl, passed⟩)
          rwa [feed_cons, update_content noQuote backslash (absurd · simple)] at opened
        rcases ihNext next staysBehind with units | ⟨units, complete, same⟩
        · exact .inl (.plain noQuote backslash units)
        · exact .inr ⟨current :: units, .plain noQuote backslash complete, by rw [same]; rfl⟩

/-- The second quote closes the literal after its units. -/
theorem feed_closing (simple : quote ≠ .backtick) (inside : StringContent quote.char content)
    (outer : List Context) (justEscaped : Bool) (previous : Text) :
    (within (.literal quote :: outer) false justEscaped).feed previous (content ++ [quote.char]) =
      within outer false false := by
  obtain ⟨lastEscaped, read⟩ := inside.feed simple outer justEscaped previous
  rw [feed_concat, read, update_closing]

/-- It is content itself after a backslash that waits for what it escapes. -/
theorem feed_escaped_quote (simple : quote ≠ .backtick) (units : StringContent quote.char content)
    (outer : List Context) (justEscaped : Bool) (previous : Text) :
    (within (.literal quote :: outer) false justEscaped).feed previous
        (content ++ ['\\', quote.char]) = within (.literal quote :: outer) false true := by
  obtain ⟨lastEscaped, read⟩ := units.feed simple outer justEscaped previous
  rw [feed_append, read, feed_escape, feed_nil]

/-- No backslash at the end of complete units waits for what it escapes. -/
theorem even_backslashesAtEnd (simple : quote ≠ .backtick)
    (inside : StringContent quote.char content) : Even content.backslashesAtEnd := by
  obtain ⟨lastEscaped, read⟩ := inside.feed simple [] false []
  have parity := escaping_feed (rfl : (within [.literal quote] false false).escaping = false) []
    content
  rw [read] at parity
  exact Nat.not_odd_iff_even.mp fun odd => Bool.false_ne_true (parity.mpr odd)

end StringContent

namespace State

/-- **String literals.** A text between two quotes of a kind is a string literal, of which each part
leaves the literal open and the whole closes it, exactly if it consists of units. A quote in an open
literal closes it exactly if an even number of backslashes stand right before it. -/
theorem string_accepted_iff {state : State} (code : state.InCode)
    (unescaping : state.escaping = false) {previous : Text}
    (noSlash : previous.getLast? ≠ some '/') {quote : Quote} (simple : quote ≠ .backtick)
    (content : Text) :
    let literal : Text := quote.char :: (content ++ [quote.char])
    let opened := Context.literal quote :: state.contexts
    ((∀ part, part <+: literal → part ≠ [] → part ≠ literal →
          (state.feed previous part).contexts = opened) ∧
        (state.feed previous literal).contexts = state.contexts ↔
      StringContent quote.char content) ∧
    ((∀ part, part <+: content → (state.feed previous (quote.char :: part)).contexts = opened) →
      ((state.feed previous literal).contexts = state.contexts ↔
        Even content.backslashesAtEnd)) := by
  obtain ⟨contexts, escaping, justEscaped, unquoted, rfl⟩ := code.exists_within
  obtain rfl : escaping = false := unescaping
  intro literal opened
  have behindQuote (text : Text) :
      (within contexts false justEscaped).feed previous (quote.char :: text) =
        (within opened false false).feed (previous ++ [quote.char]) text :=
    feed_opening unquoted noSlash quote text
  have closes (units : StringContent quote.char content) :
      ((within contexts false justEscaped).feed previous literal).contexts = contexts := by
    rw [behindQuote, units.feed_closing simple]
    rfl
  have remains {units : Text} (complete : StringContent quote.char units)
      (dangling : content = units ++ ['\\']) :
      ((within contexts false justEscaped).feed previous literal).contexts ≠ contexts := by
    have escaped : content ++ [quote.char] = units ++ ['\\', quote.char] := by
      rw [dangling, List.append_assoc]
      rfl
    rw [behindQuote, escaped, complete.feed_escaped_quote simple]
    exact List.cons_ne_self _ _
  have units_or_dangling
      (stays : ∀ part, part <+: content →
        ((within contexts false justEscaped).feed previous (quote.char :: part)).contexts =
          opened) :
      StringContent quote.char content ∨
        ∃ units, StringContent quote.char units ∧ content = units ++ ['\\'] := by
    apply StringContent.of_open simple
    intro part passed
    rw [← behindQuote]
    exact stays part passed
  refine ⟨⟨?_, ?_⟩, ?_⟩
  · rintro ⟨stays, closed⟩
    rcases units_or_dangling (Text.forall_inner_prefix_iff.mp stays) with
      units | ⟨units, complete, dangling⟩
    · exact units
    · exact absurd closed (remains complete dangling)
  · intro units
    refine ⟨Text.forall_inner_prefix_iff.mpr fun inner passed => ?_, closes units⟩
    rw [behindQuote]
    exact units.contexts_feed simple contexts false _ passed
  · intro stays
    rcases units_or_dangling stays with units | ⟨units, complete, dangling⟩
    · exact iff_of_true (closes units) (units.even_backslashesAtEnd simple)
    · refine iff_of_false (remains complete dangling) ?_
      rw [dangling, Text.backslashesAtEnd_concat, if_pos rfl, Nat.even_add_one, not_not]
      exact complete.even_backslashesAtEnd simple

/-- A string literal in a hole, with an escaped quote, a mark of a comment, a hole, a line feed and
an escaped backslash in it. -/
theorem string_accepted_in_hole :
    let state : State := { contexts := [.hole, .literal .backtick], justEscaped := true }
    let previous : Text := ['`', '$', '{']
    let content : Text := ['\\', '"', '/', '*', '$', '{', '\n', '\'', '\\', '\\']
    let literal : Text := '"' :: (content ++ ['"'])
    let opened := Context.literal .double :: state.contexts
    state.InCode ∧ state.escaping = false ∧ previous.getLast? ≠ some '/' ∧
      Quote.double ≠ .backtick ∧ StringContent '"' content ∧
      (∀ part, part <+: literal → part ≠ [] → part ≠ literal →
        (state.feed previous part).contexts = opened) ∧
      (∀ part, part <+: content → (state.feed previous ('"' :: part)).contexts = opened) ∧
      (state.feed previous literal).contexts = state.contexts ∧ Even content.backslashesAtEnd := by
  intro state previous content literal opened
  have code : state.InCode := ⟨rfl, rfl, rfl⟩
  have noSlash : previous.getLast? ≠ some '/' := by decide
  have simple : Quote.double ≠ .backtick := by decide
  have units : StringContent '"' content :=
    .escape '"' (.plain (by decide) (by decide) (.plain (by decide) (by decide)
      (.plain (by decide) (by decide) (.plain (by decide) (by decide)
        (.plain (by decide) (by decide) (.plain (by decide) (by decide)
          (.escape '\\' .empty)))))))
  obtain ⟨accepted, closing⟩ := string_accepted_iff code rfl noSlash simple content
  obtain ⟨stays, closed⟩ := accepted.mpr units
  have staysInside : ∀ part, part <+: content →
      (state.feed previous ('"' :: part)).contexts = opened :=
    Text.forall_inner_prefix_iff.mp stays
  exact ⟨code, rfl, noSlash, simple, units, stays, staysInside, closed,
    (closing staysInside).mp closed⟩

end State

end SourceWriter.Lexical
