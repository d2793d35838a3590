import SourceWriter.Proofs.Lexical.Code

/-! # Regular expressions

A regular expression opens behind a slash in code and stays open, whatever stands in it, up to a
slash that no backslash escapes. That slash still belongs to it: the character behind it or the end
of the line closes it (`State.regex_open_until_slash`).
-/

namespace SourceWriter

/-- A slash stands at this position, with an even number of backslashes right before it. -/
def Text.BareSlashAt (text : Text) (position : Nat) : Prop :=
  text[position]? = some '/' ∧ Even (Text.backslashesAtEnd (text.take position))

instance (text : Text) (position : Nat) : Decidable (text.BareSlashAt position) :=
  inferInstanceAs (Decidable (_ ∧ _))

/-- A slash is bare exactly if the backslashes right before it are of an even number. -/
theorem Text.bareSlashAt_append_cons {init rest : Text} :
    Text.BareSlashAt (init ++ '/' :: rest) init.length ↔ Even init.backslashesAtEnd := by
  simp [BareSlashAt]

namespace Lexical.State

/-- The text before the next character is in a regular expression that was opened in this code. -/
structure InRegexOf (outside state : State) : Prop where
  regex : state.inRegex = true
  comment : state.comment = outside.comment
  contexts : state.contexts = outside.contexts

variable {outside state : State} {behind : LookBehind}

/-- A regular expression goes on with every character that does not end it, and what is around it
stays. -/
theorem InRegexOf.update (inRegex : outside.InRegexOf state)
    (unended : state.regexEnded behind.last = false) (current : Char) :
    outside.InRegexOf (state.update behind current) := by
  obtain ⟨regex, comment, contexts⟩ := inRegex
  have advanced : state.advance behind current = state := by simp [advance, regex, unended]
  rw [State.update, advanced]
  exact ⟨regex, comment, contexts⟩

/-- Any character behind the slash that ends a regular expression closes it. -/
theorem InRegexOf.update_end (inRegex : outside.InRegexOf state)
    (ended : state.regexEnded behind.last = true) (current : Char) :
    (state.update behind current).inRegex = false := by
  have advanced : state.advance behind current =
      { state with inRegex := false }.nest behind.last current := by
    simp [advance, inRegex.regex, ended]
  rw [State.update, advanced]
  exact inRegex_nest _ _ _

theorem last_ofText_append_concat (previous init : Text) (last : Char) :
    (LookBehind.ofText (previous ++ (init ++ [last]))).last = some last := by
  rw [← List.append_assoc]
  exact List.getLast?_concat

/-- What a regular expression has been read up to ends it at an unescaped slash or a line feed. -/
theorem regexEnded_feed_concat (unescaping : state.escaping = false) (previous init : Text)
    (last : Char) :
    (state.feed previous (init ++ [last])).regexEnded (some last) = true ↔
      last = '/' ∧ Even init.backslashesAtEnd ∨ last = '\n' := by
  have unescaped : (state.feed previous init).escaping = false ↔ Even init.backslashesAtEnd := by
    rw [← Bool.not_eq_true, escaping_feed unescaping, Nat.not_odd_iff_even]
  simp [regexEnded, justEscaped_feed_concat, unescaped]

/-- The characters that open a regular expression behind a slash, the line feed apart. -/
def regexOpeners : List Char :=
  ['\\', '"', '\'', '`', '{', '}', '\r']

/-- In code, a slash that is no part of a mark opens a regular expression at the next character, if
that is none that makes a mark of it. -/
theorem inRegexOf_of_opener (code : state.InCode) {before : Text}
    (noMark : before.getLast? ≠ some '*' ∧ before.getLast? ≠ some '/') {first : Char}
    (opener : first ∈ regexOpeners) :
    state.InRegexOf (state.update (.ofText (before ++ ['/'])) first) := by
  have opens : ∀ first ∈ regexOpeners,
      isSignificant first = true ∧ first ≠ '/' ∧ first ≠ '*' := by
    simp [regexOpeners, isSignificant]
  obtain ⟨significant, noComment⟩ := opens first opener
  have behind : LookBehind.ofText (before ++ ['/']) = ⟨before.getLast?, some '/'⟩ := by
    rw [LookBehind.ofText_concat]
    rfl
  have starts : startsRegex (.ofText (before ++ ['/'])) first = true := by
    simp [behind, startsRegex, noMark, noComment]
  have advanced : state.advance (.ofText (before ++ ['/'])) first =
      { state with inRegex := true } := by
    simp only [advance, code.regex, code.string, code.comment, significant, starts]
    rfl
  rw [State.update, advanced]
  exact ⟨rfl, rfl, rfl⟩

/-- Each part of a body of one line is in the regular expression, if no slash but perhaps the last
character of the body is unescaped. -/
theorem inRegexOf_feed (code : state.InCode) (unescaping : state.escaping = false) {before : Text}
    (noMark : before.getLast? ≠ some '*' ∧ before.getLast? ≠ some '/') {body : Text}
    (starts : ∃ first ∈ regexOpeners, body.head? = some first) (oneLine : '\n' ∉ body)
    (unended : ∀ position, position + 1 < body.length → ¬ body.BareSlashAt position) {part : Text}
    (passed : part <+: body) (nonempty : part ≠ []) :
    state.InRegexOf (state.feed (before ++ ['/']) part) := by
  induction part using List.reverseRecOn with
  | nil => contradiction
  | append_singleton init current ih =>
      rw [feed_concat]
      obtain ⟨rest, whole⟩ := passed
      rcases List.eq_nil_or_concat' init with rfl | ⟨earlier, last, rfl⟩
      · obtain ⟨first, opener, head⟩ := starts
        obtain rfl : current = first := by simpa [← whole] using head
        rw [List.append_nil]
        exact inRegexOf_of_opener code noMark opener
      · have inside := ih ⟨current :: rest, by simp [← whole]⟩ (by simp)
        apply inside.update
        rw [last_ofText_append_concat, ← Bool.not_eq_true, regexEnded_feed_concat unescaping]
        -- The last character is not the last one of the body, so it is no bare slash.
        rintro (⟨rfl, even⟩ | rfl)
        · have split : body = earlier ++ '/' :: current :: rest := by simp [← whole]
          apply unended earlier.length
          · simp [split]
          · rw [split]
            exact Text.bareSlashAt_append_cons.mpr even
        · exact oneLine (by simp [← whole])

/-- **Regular expressions.** Behind a slash in code a regular expression stays open through each
part of a body of one line, with nothing else changed, if no slash but perhaps the last character
of the body is unescaped. If the last character is such a slash, any character behind it closes the
regular expression, and so does the end of the line. -/
theorem regex_open_until_slash {state : State} (code : state.InCode)
    (unescaping : state.escaping = false) {before : Text}
    (noMark : before.getLast? ≠ some '*' ∧ before.getLast? ≠ some '/') {body : Text}
    (starts : ∃ first ∈ regexOpeners, body.head? = some first) (oneLine : '\n' ∉ body)
    (unended : ∀ position, position + 1 < body.length → ¬ body.BareSlashAt position) :
    let after (part : Text) := state.feed (before ++ ['/']) part
    (∀ part, part <+: body → part ≠ [] → (after part).inRegex = true ∧
        (after part).comment = state.comment ∧ (after part).contexts = state.contexts) ∧
      (body.BareSlashAt (body.length - 1) →
        (∀ next, (after (body ++ [next])).inRegex = false) ∧
          (after body).endLine.inRegex = false) := by
  intro after
  have inRegex {part : Text} (passed : part <+: body) (nonempty : part ≠ []) :
      state.InRegexOf (after part) :=
    inRegexOf_feed code unescaping noMark starts oneLine unended passed nonempty
  refine ⟨?_, ?_⟩
  · intro part passed nonempty
    obtain ⟨regex, comment, contexts⟩ := inRegex passed nonempty
    exact ⟨regex, comment, contexts⟩
  · intro bare
    refine ⟨fun next => ?_, rfl⟩
    rcases List.eq_nil_or_concat' body with rfl | ⟨init, last, rfl⟩
    · simp at starts
    · obtain ⟨slash, even⟩ : last = '/' ∧ Even (Text.backslashesAtEnd init) := by
        simpa [Text.BareSlashAt] using bare
      have inside := inRegex (List.prefix_refl _) (by simp)
      have ended : (after (init ++ [last])).regexEnded (some last) = true :=
        (regexEnded_feed_concat unescaping _ _ _).mpr (.inl ⟨slash, even⟩)
      have closes : after (init ++ [last] ++ [next]) =
          (after (init ++ [last])).update (.ofText (before ++ ['/'] ++ (init ++ [last]))) next :=
        feed_concat state (before ++ ['/']) (init ++ [last]) next
      rw [closes]
      apply inside.update_end
      rw [last_ofText_append_concat]
      exact ended

/-- A regular expression in a hole, with a quote, an escaped slash, marks of comments and an escaped
backslash before its end. -/
theorem regex_open_until_slash_in_hole :
    let state : State := { contexts := [.hole, .literal .backtick], justEscaped := true }
    let before : Text := ['`', '$', '{', '(']
    let body : Text := ['"', '\\', '/', '*', '`', '\\', '\\', '/']
    let after (part : Text) := state.feed (before ++ ['/']) part
    state.InCode ∧ state.escaping = false ∧
      (before.getLast? ≠ some '*' ∧ before.getLast? ≠ some '/') ∧
      (∃ first ∈ regexOpeners, body.head? = some first) ∧ '\n' ∉ body ∧
      (∀ position, position + 1 < body.length → ¬ body.BareSlashAt position) ∧
      body.BareSlashAt (body.length - 1) ∧
      (∀ part, part <+: body → part ≠ [] → (after part).inRegex = true ∧
        (after part).comment = state.comment ∧ (after part).contexts = state.contexts) ∧
      (∀ next, (after (body ++ [next])).inRegex = false) ∧
      (after body).endLine.inRegex = false := by
  intro state before body after
  have code : state.InCode := ⟨rfl, rfl, rfl⟩
  have noMark : before.getLast? ≠ some '*' ∧ before.getLast? ≠ some '/' := by decide
  have starts : ∃ first ∈ regexOpeners, body.head? = some first := ⟨'"', by decide, rfl⟩
  have oneLine : '\n' ∉ body := by decide
  have unended : ∀ position, position + 1 < body.length → ¬ body.BareSlashAt position := by
    have below : ∀ position < body.length - 1, ¬ body.BareSlashAt position := by decide
    intro position inside
    exact below position (by omega)
  have bare : body.BareSlashAt (body.length - 1) := by decide
  obtain ⟨stays, closes⟩ := regex_open_until_slash code rfl noMark starts oneLine unended
  exact ⟨code, rfl, noMark, starts, oneLine, unended, bare, stays, closes bare⟩

end Lexical.State

end SourceWriter
