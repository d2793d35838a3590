import SourceWriter.Proofs.Lexical.Strings

/-! # Literals with holes in them

The text of a template literal may have holes, the code in a hole may have literals, and these may
have holes again. `Phrase` is the grammar of such text, and `EndsInCode` that of text which breaks
off in the code of a hole. Reading a phrase ends in the contexts it started in (`Phrase.feed`).
-/

namespace SourceWriter.Lexical

/-- The kinds of text that literals are made of. -/
inductive Piece where
  /-- A whole literal with its quotes. -/
  | literal
  /-- What stands between the quotes of a template literal. -/
  | template
  /-- What stands between the braces of a hole. -/
  | code

/-- The grammar of literals with holes. In code, the characters that could open or close something
have to be a part of a literal. -/
inductive Phrase : Piece → Text → Prop where
  | string {quote : Quote} (simple : quote ≠ .backtick) {content : Text}
      (inside : StringContent quote.char content) :
      Phrase .literal (quote.char :: (content ++ [quote.char]))
  | template {text : Text} (inside : Phrase .template text) :
      Phrase .literal ('`' :: (text ++ ['`']))
  | emptyTemplate : Phrase .template []
  | character {current : Char} {rest : Text} (noQuote : current ≠ '`')
      (noBackslash : current ≠ '\\') (noHole : current = '$' → rest.head? ≠ some '{')
      (following : Phrase .template rest) : Phrase .template (current :: rest)
  | escape (escaped : Char) {rest : Text} (following : Phrase .template rest) :
      Phrase .template ('\\' :: escaped :: rest)
  | hole {code rest : Text} (inside : Phrase .code code) (following : Phrase .template rest) :
      Phrase .template ('$' :: '{' :: (code ++ '}' :: rest))
  | emptyCode : Phrase .code []
  | plain {current : Char} {rest : Text}
      (inert : current ∉ ['/', '\\', '*', '"', '\'', '`', '{', '}'])
      (following : Phrase .code rest) : Phrase .code (current :: rest)
  | nested {literal rest : Text} (inside : Phrase .literal literal)
      (following : Phrase .code rest) : Phrase .code (literal ++ rest)

/-- The text is unfinished: it ends in the code of the innermost hole that it has opened. -/
inductive EndsInCode : Piece → Text → Prop where
  | code {text : Text} (complete : Phrase .code text) : EndsInCode .code text
  | nested {text unfinished : Text} (complete : Phrase .code text)
      (inside : EndsInCode .literal unfinished) : EndsInCode .code (text ++ unfinished)
  | hole {text unfinished : Text} (complete : Phrase .template text)
      (inside : EndsInCode .code unfinished) :
      EndsInCode .template (text ++ '$' :: '{' :: unfinished)
  | template {unfinished : Text} (inside : EndsInCode .template unfinished) :
      EndsInCode .literal ('`' :: unfinished)

/-- Where a text of some kind can stand: a brace at the start of a template's text must not open a
hole, and a literal or code must not start in a regular expression. -/
def Piece.Fits (text : Text) (contexts : List Context) (previous : Text) (justEscaped : Bool) :
    Piece → Prop
  | .template => (∃ outer, contexts = .literal .backtick :: outer) ∧
      (text.head? = some '{' → previous.getLast? = some '$' → justEscaped = true)
  | _ => Unquoted contexts ∧ previous.getLast? ≠ some '/'

namespace Piece

variable {contexts outer : List Context} {previous text : Text} {justEscaped : Bool}

/-- A dollar sign is the only character behind which a brace can open a hole. -/
theorem fits_after_character {current : Char} (noHole : current = '$' → text.head? ≠ some '{') :
    template.Fits text (.literal .backtick :: outer) (previous ++ [current]) justEscaped := by
  refine ⟨⟨outer, rfl⟩, ?_⟩
  intro brace dollar
  rw [List.getLast?_concat] at dollar
  exact absurd brace (noHole (Option.some.inj dollar))

theorem fits_in_template :
    template.Fits text (.literal .backtick :: outer) (previous ++ ['`']) justEscaped :=
  fits_after_character nofun

theorem fits_after_hole :
    template.Fits text (.literal .backtick :: outer) (previous ++ ['}']) justEscaped :=
  fits_after_character nofun

theorem fits_after_escape : template.Fits text (.literal .backtick :: outer) previous true :=
  ⟨⟨outer, rfl⟩, fun _ _ => rfl⟩

theorem fits_in_hole : code.Fits text (.hole :: outer) (previous ++ ['$', '{']) justEscaped :=
  ⟨nofun, by simp⟩

end Piece

namespace State

variable {contexts outer : List Context} {justEscaped : Bool}

/-- A grave accent in code opens a template literal. -/
theorem feed_template_opening (code : Unquoted contexts) {previous : Text}
    (noSlash : previous.getLast? ≠ some '/') (text : Text) :
    (within contexts false justEscaped).feed previous ('`' :: text) =
      (within (.literal .backtick :: contexts) false false).feed (previous ++ ['`']) text :=
  feed_opening code noSlash .backtick text

/-- A character without a meaning leaves code as it is. -/
theorem update_plain {behind : LookBehind} (noSlash : behind.last ≠ some '/') {current : Char}
    (inert : current ∉ ['/', '\\', '*', '"', '\'', '`', '{', '}']) :
    (within contexts false justEscaped).update behind current = within contexts false false := by
  have noBackslash : current ≠ '\\' := by
    rintro rfl
    simp at inert
  have noQuote : Quote.ofChar? current = none := by
    cases found : Quote.ofChar? current with
    | none => rfl
    | some quote =>
        obtain rfl := Quote.ofChar?_eq_some_iff.mp found
        cases quote <;> simp [Quote.char] at inert
  have noBraces : current ≠ '{' ∧ current ≠ '}' := by
    constructor <;> rintro rfl <;> simp at inert
  rw [update_within (.inr noSlash), contextsAfter_of_plain noQuote noBraces.1 noBraces.2,
    beq_false_of_ne noBackslash, Bool.false_and]

/-- An unescaped dollar sign and a brace open a hole. -/
theorem feed_hole (previous text : Text) :
    (within (.literal .backtick :: outer) false justEscaped).feed previous ('$' :: '{' :: text) =
      (within (.hole :: .literal .backtick :: outer) false false).feed (previous ++ ['$', '{'])
        text := by
  have dollar : (LookBehind.ofText (previous ++ ['$'])).last = some '$' := by
    simp [LookBehind.push]
  have opened : (within (.literal .backtick :: outer) false false).update
      (.ofText (previous ++ ['$'])) '{' =
        within (.hole :: .literal .backtick :: outer) false false := by
    rw [update_within (.inl rfl), dollar]
    rfl
  rw [feed_cons, update_content (by decide) (by decide) (by simp), feed_cons, opened,
    List.append_assoc]
  rfl

/-- A closing brace in a hole leads back to the literal around it. -/
theorem update_hole_closing {behind : LookBehind} (noSlash : behind.last ≠ some '/') :
    (within (.hole :: outer) false justEscaped).update behind '}' = within outer false false := by
  rw [update_within (.inr noSlash)]
  rfl

end State

open State

variable {contexts : List Context} {previous text : Text} {justEscaped : Bool} {piece : Piece}

theorem getLast?_append_literal (previous : Text) (first last : Char) (middle : Text) :
    (previous ++ first :: (middle ++ [last])).getLast? = some last := by
  rw [← List.cons_append, ← List.append_assoc, List.getLast?_concat]

/-- No literal and no code ends in a slash. -/
theorem Phrase.last_ne_slash (phrase : Phrase piece text) (outside : piece ≠ .template)
    (noSlash : previous.getLast? ≠ some '/') : (previous ++ text).getLast? ≠ some '/' := by
  induction phrase generalizing previous with
  | @string quote =>
      rw [getLast?_append_literal]
      cases quote <;> decide
  | template =>
      rw [getLast?_append_literal]
      decide
  | emptyTemplate => contradiction
  | character => contradiction
  | escape => contradiction
  | hole => contradiction
  | emptyCode => simpa using noSlash
  | @plain current rest inert following ih =>
      have behind : (previous ++ [current]).getLast? ≠ some '/' := by
        rw [List.getLast?_concat]
        rintro ⟨⟩
        simp at inert
      simpa using ih outside behind
  | nested inside following ihLiteral ihRest =>
      rw [← List.append_assoc]
      exact ihRest outside (ihLiteral nofun noSlash)

/-- Code that returns to its contexts is left by the brace that closes its hole. -/
theorem feed_through_hole {outer : List Context} {code : Text} (inside : Phrase .code code)
    (returns : ∃ lastEscaped,
      (within (.hole :: .literal .backtick :: outer) false false).feed (previous ++ ['$', '{'])
        code = within (.hole :: .literal .backtick :: outer) false lastEscaped) (rest : Text) :
    (within (.literal .backtick :: outer) false justEscaped).feed previous
        ('$' :: '{' :: (code ++ '}' :: rest)) =
      (within (.literal .backtick :: outer) false false).feed
        (previous ++ ['$', '{'] ++ code ++ ['}']) rest := by
  obtain ⟨lastEscaped, read⟩ := returns
  have noSlash : (previous ++ ['$', '{'] ++ code).getLast? ≠ some '/' :=
    inside.last_ne_slash nofun (by simp)
  rw [feed_hole, feed_append, read, feed_cons, update_hole_closing noSlash]

/-- Reading a phrase ends in the contexts it started in. -/
theorem Phrase.feed (phrase : Phrase piece text)
    (fits : piece.Fits text contexts previous justEscaped) :
    ∃ lastEscaped, (within contexts false justEscaped).feed previous text =
      within contexts false lastEscaped := by
  induction phrase generalizing contexts previous justEscaped with
  | string simple inside =>
      obtain ⟨unquoted, noSlash⟩ := fits
      rw [feed_opening unquoted noSlash, inside.feed_closing simple]
      exact ⟨false, rfl⟩
  | @template text inside ih =>
      obtain ⟨unquoted, noSlash⟩ := fits
      have started : Piece.template.Fits text (.literal .backtick :: contexts) (previous ++ ['`'])
          false := Piece.fits_in_template
      obtain ⟨lastEscaped, read⟩ := ih started
      rw [feed_template_opening unquoted noSlash, feed_concat, read]
      exact ⟨false, update_closing _⟩
  | emptyTemplate => exact ⟨justEscaped, rfl⟩
  | character noQuote noBackslash noHole following ih =>
      obtain ⟨⟨outer, rfl⟩, unmarked⟩ := fits
      rw [feed_cons, update_content noQuote noBackslash]
      · exact ih (Piece.fits_after_character noHole)
      · rintro _ rfl dollar
        exact unmarked rfl dollar
  | escape escaped following ih =>
      obtain ⟨⟨outer, rfl⟩, _⟩ := fits
      rw [feed_escape]
      exact ih Piece.fits_after_escape
  | hole inside following ihCode ihRest =>
      obtain ⟨⟨outer, rfl⟩, _⟩ := fits
      rw [feed_through_hole inside (ihCode Piece.fits_in_hole)]
      exact ihRest Piece.fits_after_hole
  | emptyCode => exact ⟨justEscaped, rfl⟩
  | plain inert following ih =>
      obtain ⟨unquoted, noSlash⟩ := fits
      rw [feed_cons, update_plain noSlash inert]
      have behind := (Phrase.plain inert .emptyCode).last_ne_slash nofun noSlash
      exact ih ⟨unquoted, behind⟩
  | nested inside following ihLiteral ihRest =>
      obtain ⟨unquoted, noSlash⟩ := fits
      obtain ⟨lastEscaped, read⟩ := ihLiteral ⟨unquoted, noSlash⟩
      rw [feed_append, read]
      exact ihRest ⟨unquoted, inside.last_ne_slash nofun noSlash⟩

/-- An unfinished text goes on where what stands before it is complete. -/
theorem EndsInCode.prepend {front part : Text} (ends : EndsInCode piece part)
    (outside : piece ≠ .literal)
    (complete : ∀ text, text <+: part → Phrase piece text → Phrase piece (front ++ text)) :
    EndsInCode piece (front ++ part) := by
  cases ends with
  | code inside => exact .code (complete part (List.prefix_refl part) inside)
  | @nested text unfinished before inside =>
      rw [← List.append_assoc]
      exact .nested (complete text (List.prefix_append text unfinished) before) inside
  | @hole text unfinished before inside =>
      rw [← List.append_assoc]
      exact .hole (complete text (List.prefix_append text _) before) inside
  | template => contradiction

/-- An unfinished text that ends in code is in no string, wherever it may stand. -/
theorem EndsInCode.inString {part : Text} (ends : EndsInCode piece part)
    (fits : piece.Fits part contexts previous justEscaped) :
    ((within contexts false justEscaped).feed previous part).inString = false := by
  induction ends generalizing contexts previous justEscaped with
  | code complete =>
      obtain ⟨lastEscaped, read⟩ := complete.feed fits
      rw [read]
      exact inString_of_unquoted fits.1
  | nested complete inside ih =>
      obtain ⟨lastEscaped, read⟩ := complete.feed fits
      obtain ⟨unquoted, noSlash⟩ := fits
      rw [feed_append, read]
      exact ih ⟨unquoted, complete.last_ne_slash nofun noSlash⟩
  | @hole text unfinished complete inside ih =>
      obtain ⟨⟨outer, rfl⟩, unmarked⟩ := fits
      have fitsText : Piece.template.Fits text (.literal .backtick :: outer) previous
          justEscaped := by
        refine ⟨⟨outer, rfl⟩, ?_⟩
        intro brace
        apply unmarked
        rw [List.head?_append, brace]
        rfl
      obtain ⟨lastEscaped, read⟩ := complete.feed fitsText
      rw [feed_append, read, feed_hole]
      exact ih Piece.fits_in_hole
  | template inside ih =>
      obtain ⟨unquoted, noSlash⟩ := fits
      rw [feed_template_opening unquoted noSlash]
      exact ih Piece.fits_in_template

end SourceWriter.Lexical
