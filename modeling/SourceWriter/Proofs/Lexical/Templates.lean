import SourceWriter.Proofs.Lexical.Phrase

/-! # Template literals

Template literals are phrases with text in quotes, code in holes, and literals in that code. However
deep the nesting is, the contexts that a literal found stay around it until its last character, and
the text is in a string except in the code of the innermost hole (`State.literal_tracked`).
-/

namespace SourceWriter.Lexical

open State

variable {contexts : List Context} {previous text : Text} {justEscaped : Bool} {piece : Piece}

theorem inString_of_contexts {state : State} {quote : Quote} {outer : List Context}
    (same : state.contexts = .literal quote :: outer) : state.inString = true := by
  rw [inString, same]

/-- What holds in the middle of a text of some kind that was started in these contexts. -/
structure Tracked (piece : Piece) (contexts : List Context) (part : Text) (state : State) :
    Prop where
  around : contexts <:+ state.contexts
  opened : piece = .literal → state.contexts ≠ contexts
  string_or_code : state.inString = true ∨ EndsInCode piece part

namespace Tracked

variable {state : State} {part : Text}

theorem of_string {quote : Quote} (same : state.contexts = .literal quote :: contexts)
    (part : Text) : Tracked .literal contexts part state :=
  ⟨same ▸ List.suffix_cons _ _, fun _ => same ▸ List.cons_ne_self _ _,
    .inl (inString_of_contexts same)⟩

theorem of_template (same : state.contexts = .literal .backtick :: contexts) (part : Text) :
    Tracked .template (.literal .backtick :: contexts) part state :=
  ⟨same ▸ List.suffix_refl _, nofun, .inl (inString_of_contexts same)⟩

theorem of_code (same : state.contexts = contexts) (complete : Phrase .code part) :
    Tracked .code contexts part state :=
  ⟨same ▸ List.suffix_refl _, nofun, .inr (.code complete)⟩

/-- The text of a template literal is in the literal. -/
theorem literal (tracked : Tracked .template (.literal .backtick :: contexts) part state) :
    Tracked .literal contexts ('`' :: part) state := by
  have around := (List.suffix_cons _ _).trans tracked.around
  refine ⟨around, ?_, tracked.string_or_code.imp_right .template⟩
  rintro - same
  have longer := tracked.around.length_le
  rw [same, List.length_cons] at longer
  omega

/-- The code of a hole is in the text around it. -/
theorem hole {outer : List Context} (tracked : Tracked .code (.hole :: outer) part state) :
    Tracked .template outer ('$' :: '{' :: part) state :=
  ⟨(List.suffix_cons _ _).trans tracked.around, nofun,
    tracked.string_or_code.imp_right (.hole .emptyTemplate)⟩

/-- A literal in code is in that code. -/
theorem nested (tracked : Tracked .literal contexts part state) :
    Tracked .code contexts part state :=
  ⟨tracked.around, nofun, tracked.string_or_code.imp_right (.nested .emptyCode)⟩

theorem prepend (tracked : Tracked piece contexts part state) (outside : piece ≠ .literal)
    (front : Text)
    (complete : ∀ text, text <+: part → Phrase piece text → Phrase piece (front ++ text)) :
    Tracked piece contexts (front ++ part) state := by
  refine ⟨tracked.around, fun inside => absurd inside outside, ?_⟩
  exact tracked.string_or_code.imp_right fun ends => ends.prepend outside complete

end Tracked

/-- A part of a template's text that starts with a hole ends in its mark, in its code or behind
it. -/
theorem prefix_hole_cases {code rest part : Text}
    (passed : part <+: '$' :: '{' :: (code ++ '}' :: rest)) :
    part = [] ∨ part = ['$'] ∨ (∃ inner, inner <+: code ∧ part = '$' :: '{' :: inner) ∨
      ∃ later, later <+: rest ∧ part = '$' :: '{' :: (code ++ '}' :: later) := by
  rcases prefix_cons_cons_iff.mp passed with rfl | rfl | ⟨inHole, begins, rfl⟩
  · exact .inl rfl
  · exact .inr (.inl rfl)
  · refine .inr (.inr ?_)
    rcases prefix_or_goesOn begins with inCode | ⟨behind, closes, rfl⟩
    · exact .inl ⟨inHole, inCode, rfl⟩
    · rcases List.prefix_cons_iff.mp closes with rfl | ⟨later, rfl, further⟩
      · exact .inl ⟨code, List.prefix_refl code, by rw [List.append_nil]⟩
      · exact .inr ⟨later, further, rfl⟩

/-- Every part of a phrase is tracked; of a literal, every part but the empty one and the whole. -/
theorem Phrase.tracked {part : Text} (phrase : Phrase piece text)
    (fits : piece.Fits text contexts previous justEscaped) (passed : part <+: text)
    (proper : piece = .literal → part ≠ [] ∧ part ≠ text) :
    Tracked piece contexts part ((within contexts false justEscaped).feed previous part) := by
  induction phrase generalizing contexts previous justEscaped part with
  | string simple inside =>
      obtain ⟨unquoted, noSlash⟩ := fits
      obtain ⟨inner, begins, rfl⟩ := Text.inner_prefix_iff.mp ⟨passed, proper rfl⟩
      rw [feed_opening unquoted noSlash]
      exact .of_string (inside.contexts_feed simple _ _ _ begins) _
  | template inside ih =>
      obtain ⟨unquoted, noSlash⟩ := fits
      obtain ⟨inner, begins, rfl⟩ := Text.inner_prefix_iff.mp ⟨passed, proper rfl⟩
      rw [feed_template_opening unquoted noSlash]
      exact (ih Piece.fits_in_template begins nofun).literal
  | emptyTemplate =>
      obtain ⟨⟨outer, rfl⟩, _⟩ := fits
      obtain rfl := List.prefix_nil.mp passed
      exact .of_template rfl _
  | @character current rest noQuote noBackslash noHole following ih =>
      obtain ⟨⟨outer, rfl⟩, unmarked⟩ := fits
      rcases List.prefix_cons_iff.mp passed with rfl | ⟨later, rfl, begins⟩
      · exact .of_template rfl _
      · rw [feed_cons, update_content noQuote noBackslash]
        · apply (ih (Piece.fits_after_character noHole) begins nofun).prepend nofun [current]
          intro text shorter complete
          refine .character noQuote noBackslash ?_ complete
          intro dollar
          exact Text.head?_ne_of_prefix (shorter.trans begins) (noHole dollar)
        · rintro _ rfl dollar
          exact unmarked rfl dollar
  | @escape escaped rest following ih =>
      obtain ⟨⟨outer, rfl⟩, _⟩ := fits
      rcases prefix_cons_cons_iff.mp passed with rfl | rfl | ⟨later, begins, rfl⟩
      · exact .of_template rfl _
      · rw [feed_cons, update_backslash]
        exact .of_template rfl _
      · rw [feed_escape]
        apply (ih Piece.fits_after_escape begins nofun).prepend nofun ['\\', escaped]
        intro text _ complete
        exact .escape escaped complete
  | @hole code rest inside following ihCode ihRest =>
      obtain ⟨⟨outer, rfl⟩, _⟩ := fits
      rcases prefix_hole_cases passed with
        rfl | rfl | ⟨inner, begins, rfl⟩ | ⟨later, begins, rfl⟩
      · exact .of_template rfl _
      · rw [feed_cons, update_content (by decide) (by decide) (by simp)]
        exact .of_template rfl _
      · rw [feed_hole]
        exact (ihCode Piece.fits_in_hole begins nofun).hole
      · have whole (text : Text) : '$' :: '{' :: (code ++ '}' :: text) =
            ('$' :: '{' :: (code ++ ['}'])) ++ text := by simp
        rw [feed_through_hole inside (inside.feed Piece.fits_in_hole), whole]
        apply (ihRest Piece.fits_after_hole begins nofun).prepend nofun
        intro text _ complete
        rw [← whole]
        exact .hole inside complete
  | emptyCode =>
      obtain rfl := List.prefix_nil.mp passed
      exact .of_code rfl .emptyCode
  | @plain current rest inert following ih =>
      obtain ⟨unquoted, noSlash⟩ := fits
      rcases List.prefix_cons_iff.mp passed with rfl | ⟨later, rfl, begins⟩
      · exact .of_code rfl .emptyCode
      · rw [feed_cons, update_plain noSlash inert]
        have behind := (Phrase.plain inert .emptyCode).last_ne_slash nofun noSlash
        apply (ih ⟨unquoted, behind⟩ begins nofun).prepend nofun [current]
        intro text _ complete
        exact .plain inert complete
  | @nested literal rest inside following ihLiteral ihRest =>
      obtain ⟨unquoted, noSlash⟩ := fits
      obtain ⟨lastEscaped, read⟩ := inside.feed ⟨unquoted, noSlash⟩
      rcases prefix_or_goesOn passed with begins | ⟨later, begins, rfl⟩
      · by_cases whole : part = literal
        · subst whole
          rw [read, ← List.append_nil part]
          exact .of_code rfl (.nested inside .emptyCode)
        by_cases empty : part = []
        · subst empty
          exact .of_code rfl .emptyCode
        exact (ihLiteral ⟨unquoted, noSlash⟩ begins fun _ => ⟨empty, whole⟩).nested
      · rw [feed_append, read]
        have behind := inside.last_ne_slash nofun noSlash
        apply (ihRest ⟨unquoted, behind⟩ begins nofun).prepend nofun literal
        intro text _ complete
        exact .nested inside complete

namespace State

/-- **Template literals.** A literal, however deep its holes are nested, leaves the contexts as it
found them, in no comment and no regular expression. At every point within it the contexts that it
found are around others, and the text is in a string exactly if it does not end in the code of the
innermost hole. -/
theorem literal_tracked {state : State} (code : state.InCode) (unescaping : state.escaping = false)
    {previous : Text} (noSlash : previous.getLast? ≠ some '/') {literal : Text}
    (phrase : Phrase .literal literal) :
    let after (part : Text) := state.feed previous part
    ((after literal).contexts = state.contexts ∧ (after literal).inComment = false ∧
        (after literal).inRegex = false) ∧
      ∀ part, part <+: literal → part ≠ [] → part ≠ literal →
        (state.contexts <:+ (after part).contexts ∧ (after part).contexts ≠ state.contexts) ∧
          ((after part).inString = true ↔ ¬ EndsInCode .literal part) := by
  obtain ⟨contexts, escaping, justEscaped, unquoted, rfl⟩ := code.exists_within
  obtain rfl : escaping = false := unescaping
  intro after
  constructor
  · obtain ⟨lastEscaped, read⟩ := phrase.feed ⟨unquoted, noSlash⟩
    have whole : after literal = within contexts false lastEscaped := read
    rw [whole]
    exact ⟨rfl, rfl, rfl⟩
  · intro part passed nonempty proper
    have tracked : Tracked .literal contexts part (after part) :=
      phrase.tracked ⟨unquoted, noSlash⟩ passed fun _ => ⟨nonempty, proper⟩
    refine ⟨⟨tracked.around, tracked.opened rfl⟩, ?_, tracked.string_or_code.resolve_right⟩
    intro inside ends
    have outside : (after part).inString = false := ends.inString ⟨unquoted, noSlash⟩
    rw [inside] at outside
    contradiction

/-- A template literal in a hole, with a dollar sign before its own hole, and in the code of that
a string, a line feed and another template literal. -/
theorem literal_tracked_nested :
    let state : State := { contexts := [.hole, .literal .backtick], justEscaped := true }
    let previous : Text := ['`', '$', '{']
    let string : Text := ['\'', '\\', '\'', '\'']
    let inner : Text := ['`', '{', '$', '{', 'x', '}', '`']
    let literal : Text :=
      '`' :: '$' :: '$' :: '{' :: (string ++ '\n' :: inner ++ ['}', '\\', '`', '$', '`'])
    let part : Text := '`' :: '$' :: '$' :: '{' :: (string ++ '\n' :: ['`', '{', '$', '{', 'x'])
    state.InCode ∧ state.escaping = false ∧ previous.getLast? ≠ some '/' ∧
      Phrase .literal literal ∧ (state.feed previous literal).contexts = state.contexts ∧
      (state.feed previous literal).inComment = false ∧
      (state.feed previous literal).inRegex = false ∧
      part <+: literal ∧ part ≠ [] ∧ part ≠ literal ∧
      state.contexts <:+ (state.feed previous part).contexts ∧
      (state.feed previous part).contexts ≠ state.contexts ∧
      EndsInCode .literal part ∧ (state.feed previous part).inString = false := by
  intro state previous string inner literal part
  have code : state.InCode := ⟨rfl, rfl, rfl⟩
  have noSlash : previous.getLast? ≠ some '/' := by decide
  have simple : Quote.single ≠ .backtick := by decide
  have phraseString : Phrase .literal string :=
    (Phrase.string simple (StringContent.escape '\'' .empty) :)
  have phraseCode : Phrase .code ['x'] := .plain (by decide) .emptyCode
  have innerHole : Phrase .template ['$', '{', 'x', '}'] :=
    (Phrase.hole phraseCode .emptyTemplate :)
  have innerText : Phrase .template ['{', '$', '{', 'x', '}'] :=
    .character (by decide) (by decide) (by decide) innerHole
  have phraseInner : Phrase .literal inner := (Phrase.template innerText :)
  have lineFeed : Phrase .code ('\n' :: inner) :=
    .plain (by decide) (List.append_nil inner ▸ .nested phraseInner .emptyCode)
  have outerCode : Phrase .code (string ++ '\n' :: inner) := .nested phraseString lineFeed
  have rest : Phrase .template ['\\', '`', '$'] :=
    .escape '`' (.character (by decide) (by decide) (by decide) .emptyTemplate)
  have phrase : Phrase .literal literal :=
    (Phrase.template (Phrase.character (by decide) (by decide) (by decide)
      (Phrase.hole outerCode rest) : Phrase .template ('$' :: _)) :)
  obtain ⟨⟨contexts, comment, regex⟩, inside⟩ := literal_tracked code rfl noSlash phrase
  have passed : part <+: literal := by decide
  have nonempty : part ≠ [] := by decide
  have proper : part ≠ literal := by decide
  obtain ⟨⟨around, opened⟩, string_iff⟩ := inside part passed nonempty proper
  have ends : EndsInCode .literal part := by
    have brace : Phrase .template ['{'] :=
      .character (by decide) (by decide) (by decide) .emptyTemplate
    have dollar : Phrase .template ['$'] :=
      .character (by decide) (by decide) (by decide) .emptyTemplate
    have before : Phrase .code (string ++ ['\n']) :=
      .nested phraseString (.plain (by decide) .emptyCode)
    have unfinished : EndsInCode .literal ['`', '{', '$', '{', 'x'] :=
      (EndsInCode.template (.hole brace (.code phraseCode)) :)
    exact (EndsInCode.template (.hole dollar (.nested before unfinished)) :)
  have outside : (state.feed previous part).inString = false := by
    rw [← Bool.not_eq_true, string_iff, not_not]
    exact ends
  exact ⟨code, rfl, noSlash, phrase, contexts, comment, regex, passed, nonempty, proper, around,
    opened, ends, outside⟩

end State

end SourceWriter.Lexical
