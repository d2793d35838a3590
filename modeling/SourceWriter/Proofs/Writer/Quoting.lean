import SourceWriter.Proofs.Lexical.Strings
import SourceWriter.Proofs.Text.Escaping
import SourceWriter.Proofs.Writer.Chunk
import SourceWriter.Proofs.Writer.History

/-! # Quoted texts

A text that is quoted is escaped and put between two quotes. What is written of it is read as one
string literal if none but the last quote closes it, and this one does. The escaping sees to that as
far as the text has no backslashes of its own to upset it: the whole is one literal exactly for the
texts that are fit to be quoted (`Writer.quoteText_iff`). Line breaks in the text make no
difference, as a literal goes on behind them and no backslash reaches beyond them
(`Writer.InLiteral.write`).
-/

namespace SourceWriter

open Lexical (Quote Context State)

namespace Options

/-- The quote that literals are made with. -/
def literalQuote (options : Options) : Quote :=
  if options.singleQuotes then .single else .double

variable (options : Options)

theorem char_literalQuote : options.literalQuote.char = options.quote := by
  unfold literalQuote quote
  split <;> rfl

theorem literalQuote_ne_backtick : options.literalQuote ≠ .backtick := by
  unfold literalQuote
  split <;> decide

theorem quote_ne_backslash : options.quote ≠ '\\' := by
  unfold quote
  split <;> decide

theorem quote_ne_feed : options.quote ≠ '\n' := by
  unfold quote
  split <;> decide

theorem quote_ne_return : options.quote ≠ '\r' := by
  unfold quote
  split <;> decide

end Options

/-- Where no holes can open, nothing but an unescaped quote closes a literal. -/
theorem Lexical.State.update_literal {quote : Quote} (simple : quote ≠ .backtick)
    (outer : List Context) (escaping justEscaped : Bool) (behind : LookBehind) (current : Char) :
    (within (.literal quote :: outer) escaping justEscaped).update behind current =
      within (if current = quote.char ∧ escaping = false then outer else .literal quote :: outer)
        (current == '\\' && !escaping) escaping := by
  rw [update_within (.inl rfl)]
  by_cases closes : current = quote.char ∧ escaping = false
  · obtain ⟨rfl, rfl⟩ := closes
    simp [contextsAfter, contextsAfterQuote]
  · have unclosed : current = quote.char → escaping = true := by simpa using closes
    rw [contextsAfter_of_content unclosed (absurd · simple), if_neg closes]

namespace Writer

open Lexical.State (within)

/-- The contexts in a literal that is opened here. -/
def quotedContexts (start : Writer) : List Context :=
  .literal start.options.literalQuote :: start.lexical.contexts

/-- The literal that was opened at the start is open, and this is its content so far. -/
structure InLiteral (writer start : Writer) (content : Text) : Prop where
  options_eq : writer.options = start.options
  settled : writer.owesLine = false
  text_eq : writer.text = start.settle.startLine.text ++
    start.options.terminator.rejoin (start.options.quote :: content)
  /-- The next character is escaped if an odd number of backslashes stands before it. -/
  lexical_eq : ∃ justEscaped, writer.lexical =
    within start.quotedContexts (decide (Odd content.backslashesAtEnd)) justEscaped

variable {start writer : Writer} {content : Text}

namespace InLiteral

/-- In the literal that is being written, its quote is open. -/
theorem contexts (inLiteral : writer.InLiteral start content) :
    writer.lexical.contexts = start.quotedContexts := by
  obtain ⟨_, lexical⟩ := inLiteral.lexical_eq
  rw [lexical]
  rfl

/-- In a literal nothing is indented. -/
theorem write_of_not_mem (inLiteral : writer.InLiteral start content) {part : Text}
    (noFeed : '\n' ∉ part) : writer.write part = writer.append part := by
  have inside : writer.inString = true := by
    rw [inString, State.inString, inLiteral.contexts]
    rfl
  have unindented : writer.startLine = writer := by simp [startLine, inside]
  rw [Writer.write, settle_of_settled inLiteral.settled, putText_of_not_mem noFeed, put, unindented]

/-- What is written in the literal is appended, with line ends as the terminator has them. -/
theorem text_write (inLiteral : writer.InLiteral start content) {part : Text}
    (noFeed : '\n' ∉ part) :
    (writer.write part).text = start.settle.startLine.text ++
      start.options.terminator.rejoin (start.options.quote :: (content ++ part)) := by
  have apart : Text.Uncut (start.options.quote :: content) part := by
    intro _ feed
    exact noFeed (List.mem_of_head? feed)
  have kept : start.options.terminator.rejoin part = part := by
    rw [Terminator.rejoin, Text.lines_of_not_mem noFeed, List.intercalate_singleton]
  rw [inLiteral.write_of_not_mem noFeed, text_append, inLiteral.text_eq, ← List.cons_append,
    Terminator.rejoin_append apart, kept, List.append_assoc]

theorem lexical_write (inLiteral : writer.InLiteral start content) {current : Char}
    (inLine : current ≠ '\n') :
    (writer.write [current]).lexical =
      within
        (if current = start.options.quote ∧ Even content.backslashesAtEnd then
          start.lexical.contexts else start.quotedContexts)
        (decide (Odd (content ++ [current] : Text).backslashesAtEnd))
        (decide (Odd content.backslashesAtEnd)) := by
  obtain ⟨justEscaped, lexical⟩ := inLiteral.lexical_eq
  have escapes : (current == '\\' && !decide (Odd content.backslashesAtEnd)) =
      decide (Odd (content ++ [current] : Text).backslashesAtEnd) := by
    rw [Text.backslashesAtEnd_concat]
    by_cases backslash : current = '\\' <;>
      simp [backslash, Nat.odd_add_one, ← Nat.not_even_iff_odd]
  have simple := start.options.literalQuote_ne_backtick
  rw [inLiteral.write_of_not_mem (by simpa using inLine.symm), lexical_append, lexical,
    State.feed_cons, State.feed_nil, quotedContexts, State.update_literal simple, escapes,
    Options.char_literalQuote]
  simp only [decide_eq_false_iff_not, Nat.not_odd_iff_even]

/-- A quote leaves the literal open if an odd number of backslashes stands before it, and closes it
otherwise. -/
theorem contexts_write_quote (inLiteral : writer.InLiteral start content) :
    (writer.write [start.options.quote]).lexical.contexts =
      if Even content.backslashesAtEnd then start.lexical.contexts else start.quotedContexts := by
  rw [inLiteral.lexical_write start.options.quote_ne_feed]
  simp only [within, true_and]

theorem contexts_ne (start : Writer) : start.quotedContexts ≠ start.lexical.contexts :=
  List.cons_ne_self _ _

/-- Any other character of a line belongs to the content. -/
theorem write_character (inLiteral : writer.InLiteral start content) {current : Char}
    (inLine : current ≠ '\n')
    (escaped : current = start.options.quote → Odd content.backslashesAtEnd) :
    (writer.write [current]).InLiteral start (content ++ [current]) := by
  have noFeed : '\n' ∉ [current] := by simpa using inLine.symm
  have unclosed : ¬ (current = start.options.quote ∧ Even content.backslashesAtEnd) := by
    rintro ⟨same, even⟩
    exact Nat.not_even_iff_odd.mpr (escaped same) even
  refine ⟨?_, ?_, inLiteral.text_write noFeed, decide (Odd content.backslashesAtEnd), ?_⟩
  · rw [inLiteral.write_of_not_mem noFeed]
    exact inLiteral.options_eq
  · rw [inLiteral.write_of_not_mem noFeed]
    exact inLiteral.settled
  · rw [inLiteral.lexical_write inLine, if_neg unclosed]

/-- A line break belongs to the content, and nothing is escaped behind it. -/
theorem write_lineBreak (inLiteral : writer.InLiteral start content) {ending : Text}
    (either : ending = ['\n'] ∨ ending = ['\r', '\n'])
    (uncut : Text.Uncut (start.options.quote :: content) ending) :
    (writer.write ending).InLiteral start (content ++ ending) := by
  have broken : writer.write ending = writer.breakLine := by
    rw [Writer.write, settle_of_settled inLiteral.settled]
    rcases either with rfl | rfl <;> rfl
  have rejoined (terminator : Terminator) : terminator.rejoin ending = terminator.text := by
    rcases either with rfl | rfl <;> cases terminator <;> rfl
  obtain ⟨rest, ends⟩ : ∃ rest, content ++ ending = rest ++ ['\n'] := by
    rcases either with rfl | rfl
    · exact ⟨content, rfl⟩
    · exact ⟨content ++ ['\r'], by simp⟩
  obtain ⟨justEscaped, lexical⟩ := inLiteral.lexical_eq
  rw [broken]
  refine ⟨inLiteral.options_eq, inLiteral.settled, ?_, false, ?_⟩
  · rw [text_breakLine, inLiteral.text_eq, ← List.cons_append, Terminator.rejoin_append uncut,
      rejoined, inLiteral.options_eq, List.append_assoc]
  · have unescaping : ¬ Odd (rest ++ ['\n'] : Text).backslashesAtEnd := by
      rw [Text.backslashesAtEnd_concat, if_neg (by decide)]
      decide
    rw [ends, decide_eq_false unescaping]
    simp only [breakLine, push, lexical, State.endLine]
    rfl

/-- Pieces go on where the pieces before them end, also behind the opening quote alone. -/
theorem write_write (inLiteral : writer.InLiteral start content) {first second : Text}
    (filled : second ≠ []) (uncut : first.Uncut second) :
    (writer.write first).write second = writer.write (first ++ second) := by
  by_cases empty : first = []
  · subst empty
    rw [inLiteral.write_of_not_mem List.not_mem_nil]
    rfl
  · exact Writer.write_write empty filled uncut writer

variable (opened : writer.InLiteral start [])

include opened

/-- A literal stays open in every part of a content whose quotes are all escaped. -/
theorem write
    (escaped : ∀ part : Text, part ++ [start.options.quote] <+: content →
      Odd part.backslashesAtEnd) :
    ∀ part, part <+: content → (writer.write part).InLiteral start part := by
  induction content using List.reverseRecOn with
  | nil =>
      intro part passed
      obtain rfl := List.prefix_nil.mp passed
      rwa [opened.write_of_not_mem List.not_mem_nil]
  | append_singleton content last ih =>
      have inside := ih fun part quoted =>
        escaped part (quoted.trans (List.prefix_append content [last]))
      intro part passed
      rcases List.prefix_concat_iff.mp passed with rfl | earlier
      · by_cases feed : last = '\n'
        · subst feed
          by_cases returned : content.getLast? = some '\r'
          · -- The line break began with the carriage return, which was no part of a line.
            obtain ⟨content, rfl⟩ := List.getLast?_eq_some_iff.mp returned
            have earlier := inside content (List.prefix_append content ['\r'])
            rw [List.append_assoc, ← opened.write_write (by simp) (by simp [Text.Uncut])]
            exact earlier.write_lineBreak (.inr rfl) (by simp [Text.Uncut])
          · have whole := inside content (List.prefix_refl content)
            rw [← opened.write_write (by simp) (absurd · returned)]
            apply whole.write_lineBreak (.inl rfl)
            intro ending
            rw [List.getLast?_cons] at ending
            cases last : content.getLast? with
            | none => simp [last, start.options.quote_ne_return] at ending
            | some final => simp_all
        · have whole := inside content (List.prefix_refl content)
          rw [← opened.write_write (by simp) (by simp [Text.Uncut, feed])]
          apply whole.write_character feed
          rintro rfl
          exact escaped content (List.prefix_refl _)
      · exact inside part earlier

/-- It stays open in every part of these contents only. -/
theorem contexts_write_iff :
    (∀ part, part <+: content → (writer.write part).lexical.contexts = start.quotedContexts) ↔
      ∀ part : Text, part ++ [start.options.quote] <+: content → Odd part.backslashesAtEnd := by
  constructor
  · intro stays
    induction content using List.reverseRecOn with
    | nil => simp
    | append_singleton content last ih =>
        have escaped := ih fun part passed =>
          stays part (passed.trans (List.prefix_append content [last]))
        intro part quoted
        rcases List.prefix_concat_iff.mp quoted with whole | earlier
        · obtain ⟨rfl, same⟩ := List.append_inj' whole rfl
          rw [← same] at stays
          -- The quote is escaped if the literal is open behind it too.
          have before := opened.write escaped part (List.prefix_refl part)
          have behind := stays (part ++ [start.options.quote]) (List.prefix_refl _)
          rw [← opened.write_write (by simp) (by simp [Text.Uncut, start.options.quote_ne_feed]),
            before.contexts_write_quote] at behind
          by_contra even
          rw [if_pos (Nat.not_odd_iff_even.mp even)] at behind
          exact contexts_ne start behind.symm
        · exact escaped part earlier
  · intro escaped part passed
    exact (opened.write escaped part passed).contexts

end InLiteral

section

variable (code : start.lexical.InCode) (unescaping : start.lexical.escaping = false)
  (noSlash : start.lastChar ≠ some '/')

include noSlash in
/-- No regular expression starts with the quote of a literal. -/
theorem getLast?_startLine_settle_ne : start.settle.startLine.text.getLast? ≠ some '/' := by
  by_cases fresh : start.settle.atLineStart = true
  · exact (blank_startLine fresh).last_ne (by decide)
  · have settled : start.settle = start := by
      unfold settle
      split
      · rename_i owes
        rw [settle, if_pos owes] at fresh
        exact absurd (atLineStart_breakLine _) fresh
      · rfl
    rw [startLine_of_started (Bool.not_eq_true _ ▸ fresh), settled, ← lastChar_eq_getLast?]
    exact noSlash

include code unescaping in
/-- Paying the line break that may be owed leaves the code that the writer is in. -/
theorem exists_lexical_settle :
    ∃ justEscaped, start.settle.lexical = within start.lexical.contexts false justEscaped := by
  obtain ⟨contexts, escaping, justEscaped, _, lexical⟩ := code.exists_within
  rw [lexical] at unescaping ⊢
  obtain rfl : escaping = false := unescaping
  unfold settle
  split
  · refine ⟨false, ?_⟩
    simp only [newLine, breakLine, push, lexical]
    rfl
  · exact ⟨justEscaped, lexical⟩

include code unescaping noSlash in
/-- The first quote opens a literal, behind the indentation if it starts a line. -/
theorem inLiteral_write_quote : (start.write [start.options.quote]).InLiteral start [] := by
  have noFeed : '\n' ∉ [start.options.quote] := by simpa using start.options.quote_ne_feed.symm
  have put : start.write [start.options.quote] =
      start.settle.startLine.append [start.options.quote] := by
    rw [Writer.write, putText_of_not_mem noFeed]
    rfl
  have kept (terminator : Terminator) :
      terminator.rejoin [start.options.quote] = [start.options.quote] := by
    rw [Terminator.rejoin, Text.lines_of_not_mem noFeed, List.intercalate_singleton]
  obtain ⟨justEscaped, settled⟩ := exists_lexical_settle code unescaping
  have unopened : (Lexical.LookBehind.ofText start.settle.startLine.text).last ≠ some '/' :=
    getLast?_startLine_settle_ne noSlash
  rw [put]
  refine ⟨?_, ?_, ?_, false, ?_⟩
  · exact (options_startLine _).trans (options_settle start)
  · exact (owesLine_startLine _).trans (owesLine_settle start)
  · rw [text_append, kept]
  · rw [lexical_append, lexical_startLine, settled, State.feed_cons, State.feed_nil,
      ← Options.char_literalQuote, State.update_opening code.unquoted unopened]
    rfl

end

section

variable (opened : (start.write [start.options.quote]).InLiteral start [])

include opened

theorem write_quote_cons (part : Text) :
    start.write (start.options.quote :: part) = (start.write [start.options.quote]).write part := by
  by_cases empty : part = []
  · subst empty
    rw [opened.write_of_not_mem List.not_mem_nil]
    rfl
  · have uncut : Text.Uncut [start.options.quote] part := by
      simp [Text.Uncut, start.options.quote_ne_return]
    exact (Writer.write_write (List.cons_ne_nil _ _) empty uncut start).symm

/-- A text is quoted by writing the quote, the escaped text, and the quote again. -/
theorem quoteText_eq_write_write (text : Text) :
    start.quoteText text =
      ((start.write [start.options.quote]).write (text.escapeWithin start.options.quote)).write
        [start.options.quote] := by
  have uncut : Text.Uncut (text.escapeWithin start.options.quote) [start.options.quote] := by
    simp [Text.Uncut, start.options.quote_ne_feed]
  rw [opened.write_write (List.cons_ne_nil _ _) uncut, ← write_quote_cons opened]
  rfl

/-- The literal of a text is open in each of its proper parts if every quote in between is
escaped. -/
theorem contexts_write_literal_iff (text : Text) :
    (∀ part, part <+: literal start.options text → part ≠ [] → part ≠ literal start.options text →
        (start.write part).lexical.contexts = start.quotedContexts) ↔
      ∀ part : Text, part ++ [start.options.quote] <+: text.escapeWithin start.options.quote →
        Odd part.backslashesAtEnd := by
  rw [← opened.contexts_write_iff]
  simp only [← write_quote_cons opened]
  exact Text.forall_inner_prefix_iff

end

/-- **Quoted texts.** In code, what is written of a text is its literal, whose first quote opens a
string that is open in every proper part of the literal and closed behind the whole, exactly if the
text is fit to be quoted. -/
theorem quoteText_iff {writer : Writer} (code : writer.lexical.InCode)
    (unescaping : writer.lexical.escaping = false) (noSlash : writer.lastChar ≠ some '/')
    (text : Text) :
    let literal := Writer.literal writer.options text
    let quoted := writer.quoteText text
    (quoted.text =
          writer.settle.startLine.text ++ writer.options.terminator.rejoin literal ∧
        quoted.inString = false ∧ quoted.lexical.contexts = writer.lexical.contexts ∧
        ∀ part, part <+: literal → part ≠ [] → part ≠ literal →
          (writer.write part).inString = true ∧
            (writer.write part).lexical.contexts = writer.quotedContexts) ↔
      text.Quotable writer.options.quote := by
  intro literal quoted
  have opened := inLiteral_write_quote code unescaping noSlash
  have open_iff := contexts_write_literal_iff opened text
  have whole : quoted = _ := quoteText_eq_write_write opened text
  rw [Text.quotable_iff writer.options.quote_ne_backslash writer.options.quote_ne_feed
    writer.options.quote_ne_return, ← open_iff]
  constructor
  · rintro ⟨_, _, closed, stays⟩
    have inside : ∀ part, part <+: literal → part ≠ [] → part ≠ literal →
        (writer.write part).lexical.contexts = writer.quotedContexts :=
      fun part passed nonempty proper => (stays part passed nonempty proper).2
    have before := opened.write (open_iff.mp inside) _ (List.prefix_refl _)
    refine ⟨inside, ?_⟩
    by_contra odd
    rw [whole, before.contexts_write_quote, if_neg odd] at closed
    exact InLiteral.contexts_ne writer closed
  · rintro ⟨inside, even⟩
    have before := opened.write (open_iff.mp inside) _ (List.prefix_refl _)
    have noFeed : '\n' ∉ [writer.options.quote] := by
      simpa using writer.options.quote_ne_feed.symm
    have closed : quoted.lexical.contexts = writer.lexical.contexts := by
      rw [whole, before.contexts_write_quote, if_pos even]
    refine ⟨?_, ?_, closed, ?_⟩
    · rw [whole, before.text_write noFeed]
      rfl
    · apply State.inString_of_unquoted
      rw [closed]
      exact code.unquoted
    · intro part passed nonempty proper
      have contexts := inside part passed nonempty proper
      refine ⟨?_, contexts⟩
      rw [inString, State.inString, contexts]
      rfl

/-- A text of three lines that is quoted in a hole of a template literal, with an escaped backslash
in front of its quote and carriage returns in front of its line breaks. -/
theorem quoteText_in_hole :
    let writer : Writer :=
      write { options := { terminator := .crlf, singleQuotes := true } } ['`', '$', '{']
    let text : Text := ['\\', '\\', '\'', '\r', '\r', '\n', '\\', '\n', '"']
    let literal := Writer.literal writer.options text
    let quoted := writer.quoteText text
    writer.lexical.InCode ∧ writer.lexical.escaping = false ∧ writer.lastChar ≠ some '/' ∧
      text.Quotable writer.options.quote ∧
      quoted.text = "`$\x7b'\\\\\\'\r\\\r\n\\\\\r\n\"'".toList ∧ quoted.inString = false ∧
      quoted.lexical.contexts = [.hole, .literal .backtick] ∧
      ∀ part, part <+: literal → part ≠ [] → part ≠ literal →
        (writer.write part).inString = true ∧
          (writer.write part).lexical.contexts = [.literal .single, .hole, .literal .backtick] := by
  intro writer text literal quoted
  have code : writer.lexical.InCode := ⟨by decide +kernel, by decide +kernel, by decide +kernel⟩
  have unescaping : writer.lexical.escaping = false := by decide +kernel
  have noSlash : writer.lastChar ≠ some '/' := by decide +kernel
  have quotable : text.Quotable writer.options.quote := by decide +kernel
  obtain ⟨_, outside, closed, stays⟩ := (quoteText_iff code unescaping noSlash text).mpr quotable
  have contexts : writer.lexical.contexts = [.hole, .literal .backtick] := by decide +kernel
  rw [quotedContexts, contexts] at stays
  exact ⟨code, unescaping, noSlash, quotable, by decide +kernel, outside, closed.trans contexts,
    stays⟩

/-- A backslash at the end of a text escapes the quote that was to close the literal. -/
theorem not_forall_quoteText :
    (¬ ∀ (writer : Writer) (text : Text), writer.Reachable → writer.lexical.InCode →
      writer.lexical.escaping = false → writer.lastChar ≠ some '/' →
      (writer.quoteText text).inString = false) ∧
    let quoted := quoteText { options := {} } ['\\']
    quoted.text = ['"', '\\', '"'] ∧ quoted.lexical.contexts = [.literal .double] := by
  refine ⟨?_, by decide +kernel⟩
  intro always
  have created : Writer.new {} = .ok { options := {} } := rfl
  have reachable := Writer.Reachable.run created .done
  have outside := always _ ['\\'] reachable ⟨rfl, rfl, rfl⟩ rfl (by decide)
  exact absurd outside (by decide +kernel)

end Writer

end SourceWriter
