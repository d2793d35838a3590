import Mathlib.Logic.Function.Basic
import SourceWriter.Proofs.Text.Cut
import SourceWriter.Proofs.Text.Escaping

/-! # Reading escaped texts back

Escaping leaves the backslashes of a text as they are, so that an escaped text may have two of them
in a row, one from the text and one put in front of a quote or a line break. It can be read back all
the same: no quote and no line break of an escaped text goes without its backslash, so that what is
left of the text behind a backslash of its own starts with neither (`Text.Escapes.startsEscaped`).
The backslashes right before a quote or a line break are therefore those that were put there, and
dropping them gives the text back (`Text.escapeWithin_lossless`).
-/

namespace SourceWriter.Text

variable {quote : Char} {text escaped mark : Text}

/-- What a backslash is put in front of: a quote, or a line break with its carriage return. -/
def marks (quote : Char) : List Text :=
  [[quote], ['\n'], ['\r', '\n']]

theorem mem_marks_iff :
    mark ∈ marks quote ↔ mark = [quote] ∨ mark = ['\n'] ∨ mark = ['\r', '\n'] := by
  simp [marks]

/-- A text and its escaped form, side by side. -/
inductive Escapes (quote : Char) : Text → Text → Prop where
  | nothing : Escapes quote [] []
  | mark {mark text escaped : Text} (known : mark ∈ marks quote)
      (rest : Escapes quote text escaped) : Escapes quote (mark ++ text) ('\\' :: mark ++ escaped)
  | plain {character : Char} {text escaped : Text}
      (unmarked : startsEscaped quote (character :: text) = false)
      (rest : Escapes quote text escaped) :
      Escapes quote (character :: text) (character :: escaped)

/-- A character stands for itself if it is no quote and starts no line end. -/
theorem startsEscaped_cons_eq_false_iff {character : Char} :
    startsEscaped quote (character :: text) = false ↔
      character ≠ quote ∧ character ≠ '\n' ∧ (character = '\r' → text.head? ≠ some '\n') := by
  unfold startsEscaped
  cases text <;> grind

theorem startsEscaped_mark (known : mark ∈ marks quote) (rest : Text) :
    startsEscaped quote (mark ++ rest) = true := by
  rcases mem_marks_iff.mp known with rfl | rfl | rfl
  · rw [List.singleton_append, ← Bool.not_eq_false, startsEscaped_cons_eq_false_iff]
    simp
  · rfl
  · rfl

/-- Nothing but backslashes is dropped. -/
theorem unescapeWithin_append {part : Text} (plain : '\\' ∉ part) (rest : Text) :
    unescapeWithin quote (part ++ rest) = part ++ unescapeWithin quote rest := by
  induction part with
  | nil => rfl
  | cons character part ih =>
      obtain ⟨other, later⟩ := not_or.mp (mt List.mem_cons.mpr plain)
      simp only [List.cons_append, unescapeWithin, Ne.symm other, false_and, ↓reduceIte, ih later]

theorem backslash_not_mem (other : quote ≠ '\\') (known : mark ∈ marks quote) : '\\' ∉ mark := by
  rcases mem_marks_iff.mp known with rfl | rfl | rfl <;> simp [other.symm]

/-- A mark is one quote or one line break. -/
theorem count_mark (inLine : quote ≠ '\n') (visible : quote ≠ '\r') (known : mark ∈ marks quote) :
    mark.count quote + mark.count '\n' = 1 := by
  rcases mem_marks_iff.mp known with rfl | rfl | rfl <;> simp [inLine, inLine.symm, visible.symm]

/-- A mark is escaped by one backslash before it. -/
theorem escapeWithin_mark (inLine : quote ≠ '\n') (visible : quote ≠ '\r')
    (known : mark ∈ marks quote) (rest : Text) :
    escapeWithin (mark ++ rest) quote = '\\' :: mark ++ escapeWithin rest quote := by
  have alone : escapeWithin mark quote = '\\' :: mark ∧ mark.getLast? ≠ some '\r' := by
    rcases mem_marks_iff.mp known with rfl | rfl | rfl <;>
      simp [escapeWithin, escapeChar, escapeLineBreaks, inLine, inLine.symm, visible, visible.symm]
  rw [escapeWithin_append (fun ending => absurd ending alone.2), alone.1]

/-- Anything but a mark is left as it is. -/
theorem escapeWithin_plain {character : Char} {rest : Text}
    (unmarked : startsEscaped quote (character :: rest) = false) :
    escapeWithin (character :: rest) quote = character :: escapeWithin rest quote := by
  obtain ⟨unquoted, inLine, apart⟩ := startsEscaped_cons_eq_false_iff.mp unmarked
  have alone : escapeWithin [character] quote = [character] := by
    simp [escapeWithin, escapeChar, unquoted, escapeLineBreaks]
  rw [← List.singleton_append, escapeWithin_append (by simpa using apart), alone]
  rfl

/-- Escaping takes a text mark by mark, whatever backslashes it has. -/
theorem escapes_escapeWithin (inLine : quote ≠ '\n') (visible : quote ≠ '\r') (text : Text) :
    Escapes quote text (text.escapeWithin quote) := by
  have marked {mark rest : Text} (known : mark ∈ marks quote)
      (escapes : Escapes quote rest (rest.escapeWithin quote)) :
      Escapes quote (mark ++ rest) ((mark ++ rest).escapeWithin quote) := by
    rw [escapeWithin_mark inLine visible known]
    exact .mark known escapes
  fun_induction escapeLineBreaks text with
  | case1 => exact .nothing
  | case2 rest ih => exact marked (mem_marks_iff.mpr (.inr (.inr rfl))) ih
  | case3 rest ih => exact marked (mem_marks_iff.mpr (.inr (.inl rfl))) ih
  | case4 character rest notBoth notFeed ih =>
      by_cases quoted : character = quote
      · subst quoted
        exact marked (mem_marks_iff.mpr (.inl rfl)) ih
      · have unmarked : startsEscaped quote (character :: rest) = false := by
          refine startsEscaped_cons_eq_false_iff.mpr ⟨quoted, notFeed, ?_⟩
          intro returned next
          obtain ⟨after, rfl⟩ := List.head?_eq_some_iff.mp next
          exact notBoth after returned rfl
        rw [escapeWithin_plain unmarked]
        exact .plain unmarked ih

namespace Escapes

variable (escapes : Escapes quote text escaped)
include escapes

theorem head?_ne_feed : escaped.head? ≠ some '\n' := by
  cases escapes with
  | nothing => simp
  | mark => simp
  | plain unmarked => simpa using (startsEscaped_cons_eq_false_iff.mp unmarked).2.1

/-- An escaped text starts with a backslash where the text starts with a quote or a line break. -/
theorem startsEscaped (other : quote ≠ '\\') : Text.startsEscaped quote escaped = false := by
  cases escapes with
  | nothing => rfl
  | mark => exact startsEscaped_cons_eq_false_iff.mpr ⟨other.symm, by decide, nofun⟩
  | plain unmarked rest =>
      obtain ⟨unquoted, inLine, _⟩ := startsEscaped_cons_eq_false_iff.mp unmarked
      exact startsEscaped_cons_eq_false_iff.mpr ⟨unquoted, inLine, fun _ => rest.head?_ne_feed⟩

/-- Dropping the backslashes that stand in front of something that is escaped drops just those that
were put there. -/
theorem unescapeWithin (other : quote ≠ '\\') : Text.unescapeWithin quote escaped = text := by
  induction escapes with
  | nothing => rfl
  | @mark mark text escaped known rest ih =>
      have dropped : Text.unescapeWithin quote ('\\' :: mark ++ escaped) =
          Text.unescapeWithin quote (mark ++ escaped) :=
        if_pos ⟨rfl, startsEscaped_mark known escaped⟩
      rw [dropped, unescapeWithin_append (backslash_not_mem other known), ih]
  | @plain character text escaped unmarked rest ih =>
      -- Even a backslash of the text is kept, as what it stands in front of starts with another.
      have kept : Text.unescapeWithin quote (character :: escaped) =
          character :: Text.unescapeWithin quote escaped :=
        if_neg (by simp [rest.startsEscaped other])
      rw [kept, ih]

/-- There is one backslash more for each quote and each line feed. -/
theorem length (inLine : quote ≠ '\n') (visible : quote ≠ '\r') :
    escaped.length = text.length + text.count quote + text.count '\n' := by
  induction escapes with
  | nothing => rfl
  | @mark mark text escaped known rest ih =>
      have single := count_mark inLine visible known
      simp only [List.cons_append, List.length_cons, List.length_append, List.count_append, ih]
      omega
  | @plain character text escaped unmarked rest ih =>
      obtain ⟨unquoted, inLine, _⟩ := startsEscaped_cons_eq_false_iff.mp unmarked
      simp only [List.length_cons, List.count_cons_of_ne unquoted, List.count_cons_of_ne inLine, ih]
      omega

end Escapes

/-- There is one line more than there are line breaks, and each of them has one line feed. -/
theorem length_lines (text : Text) : text.lines.length = text.count '\n' + 1 := by
  fun_induction lines text with
  | case1 => rfl
  | case2 rest ih => simp [ih]
  | case3 rest ih => simp [ih]
  | case4 character rest _ notFeed ih =>
      rw [List.count_cons_of_ne notFeed, ← ih]
      cases cut : lines rest with
      | nil => exact absurd cut (lines_ne_nil rest)
      | cons first others => rfl

/-- **Escaping is lossless.** For any quote but a backslash and the characters of a line break,
dropping the backslashes that stand right before a quote or a line break gives the text back,
whatever backslashes it has of its own. So no two texts are escaped to the same one, and escaping
makes a text longer by one character for each quote and for each line break between its lines. -/
theorem escapeWithin_lossless (other : quote ≠ '\\') (inLine : quote ≠ '\n')
    (visible : quote ≠ '\r') :
    (∀ text : Text, (text.escapeWithin quote).unescapeWithin quote = text) ∧
      Function.Injective (fun text : Text => text.escapeWithin quote) ∧
      ∀ text : Text, (text.escapeWithin quote).length =
        text.length + text.count quote + (text.lines.length - 1) := by
  have inverse : ∀ text : Text, unescapeWithin quote (text.escapeWithin quote) = text := by
    intro text
    exact (escapes_escapeWithin inLine visible text).unescapeWithin other
  refine ⟨inverse, Function.LeftInverse.injective inverse, ?_⟩
  intro text
  rw [(escapes_escapeWithin inLine visible text).length inLine visible, length_lines,
    Nat.add_sub_cancel]

/-- Backslashes before quotes and line breaks, and more carriage returns than belong to them. -/
theorem escapeWithin_lossless_with_backslashes :
    let text : Text := "\\\"\\\\\r\r\n\\\n\r\"\\".toList
    let escaped := text.escapeWithin '"'
    '"' ≠ '\\' ∧ '"' ≠ '\n' ∧ '"' ≠ '\r' ∧
      escaped = "\\\\\"\\\\\r\\\r\n\\\\\n\r\\\"\\".toList ∧
      escaped.unescapeWithin '"' = text ∧ escaped.length = text.length + 2 + 2 := by
  intro text escaped
  obtain ⟨inverse, _, length⟩ := escapeWithin_lossless
    (by decide : '"' ≠ '\\') (by decide) (by decide)
  exact ⟨by decide, by decide, by decide, by decide, inverse text, length text⟩

end SourceWriter.Text
