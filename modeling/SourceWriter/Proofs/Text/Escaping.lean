import Mathlib.Algebra.Group.Nat.Even
import Mathlib.Algebra.Ring.Parity
import Mathlib.Data.List.Infix
import SourceWriter.Proofs.Text.Ends
import SourceWriter.Proofs.Text.Prefix

/-! # Backslashes in escaped texts

Escaping puts backslashes in front of quotes and line breaks, and leaves the backslashes that a text
has of its own as they are. So a backslash of the text may take the one that is put behind it for
the character that it escapes, and the quote is bare again; and one at the end of the text escapes
the quote that comes after it. A text is fit to be quoted if neither happens (`Text.Quotable`),
which is seen as well from its backslashes after escaping (`Text.quotable_iff`).
-/

namespace SourceWriter.Text

variable {text first second : Text} {quote mark : Char}

/-- The backslashes of the text pair off in front of each of its quotes, and of the quote that is
put behind it. -/
def Quotable (quote : Char) (text : Text) : Prop :=
  ∀ before : Text, before ++ [quote] <+: text ++ [quote] → Even before.backslashesAtEnd

/-- A text can be quoted exactly if an even number of backslashes stands before each quote in it,
and before the one that closes it. -/
theorem quotable_iff_inits :
    (∀ before : Text, before ∈ text.inits → before ++ [quote] <+: text ++ [quote] →
      Even before.backslashesAtEnd) ↔ text.Quotable quote := by
  constructor
  · intro paired before quoted
    have shorter : before.length ≤ text.length := by
      have length := quoted.length_le
      simp only [List.length_append, List.length_singleton] at length
      omega
    have passed : before <+: text :=
      List.prefix_of_prefix_length_le ((List.prefix_append before [quote]).trans quoted)
        (List.prefix_append text [quote]) shorter
    exact paired before ((List.mem_inits before text).mpr passed) quoted
  · intro quotable before _ quoted
    exact quotable before quoted

instance (quote : Char) (text : Text) : Decidable (text.Quotable quote) :=
  decidable_of_iff _ quotable_iff_inits

/-! ### Escaping piece by piece -/

theorem escapeChar_append (first second : Text) (character : Char) :
    escapeChar (first ++ second) character =
      escapeChar first character ++ escapeChar second character :=
  List.flatMap_append

/-- Line breaks are escaped piece by piece, unless the cut separates a line feed from its carriage
return. -/
theorem escapeLineBreaks_append
    (uncut : first.getLast? = some '\r' → second.head? ≠ some '\n') :
    escapeLineBreaks (first ++ second) = escapeLineBreaks first ++ escapeLineBreaks second := by
  fun_induction escapeLineBreaks first with
  | case1 => rfl
  | case2 rest ih =>
      have following := ih fun ending => uncut (by simp [List.getLast?_cons, ending])
      simp only [List.cons_append, escapeLineBreaks, following]
  | case3 rest ih =>
      have following := ih fun ending => uncut (by simp [List.getLast?_cons, ending])
      simp only [List.cons_append, escapeLineBreaks, following]
  | case4 character rest notBoth notFeed ih =>
      have following := ih fun ending => uncut (by simp [List.getLast?_cons, ending])
      rw [List.cons_append, escapeLineBreaks.eq_4 character (rest ++ second) _ notFeed, following]
      · rfl
      · -- What starts no pair of its own starts none with what comes behind it.
        rintro after rfl same
        cases rest with
        | nil => exact uncut rfl (by simp_all)
        | cons next others =>
            obtain ⟨rfl, _⟩ := List.cons.inj same
            exact notBoth others rfl rfl

theorem getLast?_escapeChar (text : Text) (character : Char) :
    (text.escapeChar character).getLast? = text.getLast? := by
  induction text using List.reverseRecOn with
  | nil => rfl
  | append_singleton text last _ =>
      rw [escapeChar_append, List.getLast?_concat]
      by_cases same : last = character <;> simp [escapeChar, same]

theorem getLast?_escapeLineBreaks (text : Text) :
    (escapeLineBreaks text).getLast? = text.getLast? := by
  fun_induction escapeLineBreaks text with
  | case1 => rfl
  | case2 rest ih => simp [List.getLast?_cons, ih]
  | case3 rest ih => simp [List.getLast?_cons, ih]
  | case4 character rest _ _ ih => simp [List.getLast?_cons, ih]

/-- Escaping puts nothing behind the last character. -/
theorem getLast?_escapeWithin (text : Text) (quote : Char) :
    (text.escapeWithin quote).getLast? = text.getLast? := by
  rw [escapeWithin, getLast?_escapeLineBreaks, getLast?_escapeChar]

/-- Texts are escaped piece by piece, unless a pair of carriage return and line feed is cut. -/
theorem escapeWithin_append (uncut : first.getLast? = some '\r' → second.head? ≠ some '\n')
    (quote : Char) :
    escapeWithin (first ++ second) quote =
      escapeWithin first quote ++ escapeWithin second quote := by
  rw [escapeWithin, escapeChar_append, escapeLineBreaks_append]
  · rfl
  · rw [getLast?_escapeChar]
    intro ending feed
    cases second with
    | nil => contradiction
    | cons next rest =>
        by_cases same : next = quote <;> simp_all [escapeChar]

/-- A text ends in as many backslashes after escaping as before. -/
theorem backslashesAtEnd_escapeWithin (other : quote ≠ '\\') (text : Text) :
    (text.escapeWithin quote).backslashesAtEnd = text.backslashesAtEnd := by
  induction text using List.reverseRecOn with
  | nil => rfl
  | append_singleton text last ih =>
      by_cases backslash : last = '\\'
      · subst backslash
        have alone : escapeWithin ['\\'] quote = ['\\'] := by
          simp [escapeWithin, escapeChar, other.symm, escapeLineBreaks]
        rw [escapeWithin_append (by simp), alone, backslashesAtEnd_concat, backslashesAtEnd_concat,
          ih]
      · -- Whatever is put in front of it, the last character is no backslash.
        obtain ⟨before, ending⟩ : ∃ before,
            escapeWithin (text ++ [last]) quote = before ++ [last] := by
          apply List.getLast?_eq_some_iff.mp
          rw [getLast?_escapeWithin, List.getLast?_concat]
        rw [ending, backslashesAtEnd_concat, backslashesAtEnd_concat, if_neg backslash,
          if_neg backslash]

/-! ### Quotes in escaped texts -/

/-- A mark in an escaped text is one of the text itself, with a backslash before it. -/
theorem concat_prefix_escapeChar_iff (other : mark ≠ '\\') {part : Text} :
    part ++ [mark] <+: text.escapeChar mark ↔
      ∃ before : Text, before ++ [mark] <+: text ∧ part = before.escapeChar mark ++ ['\\'] := by
  constructor
  · intro marked
    induction text generalizing part with
    | nil => simp [escapeChar] at marked
    | cons current rest ih =>
        by_cases same : current = mark
        · subst same
          have escaped : escapeChar (current :: rest) current =
              '\\' :: current :: escapeChar rest current := by simp [escapeChar]
          rw [escaped, concat_prefix_cons_iff] at marked
          obtain ⟨later, behind, rfl⟩ := marked.resolve_left fun first => other first.2
          rcases concat_prefix_cons_iff.mp behind with ⟨rfl, _⟩ | ⟨further, following, rfl⟩
          · exact ⟨[], List.prefix_append [current] rest, rfl⟩
          · obtain ⟨before, passed, rfl⟩ := ih following
            exact ⟨current :: before, List.cons_prefix_cons.mpr ⟨rfl, passed⟩, by simp [escapeChar]⟩
        · have plain : escapeChar (current :: rest) mark = current :: escapeChar rest mark := by
            simp [escapeChar, same]
          rw [plain, concat_prefix_cons_iff] at marked
          obtain ⟨later, following, rfl⟩ := marked.resolve_left fun first => same first.2.symm
          obtain ⟨before, passed, rfl⟩ := ih following
          exact ⟨current :: before, List.cons_prefix_cons.mpr ⟨rfl, passed⟩,
            by simp [escapeChar, same]⟩
  · rintro ⟨before, ⟨rest, rfl⟩, rfl⟩
    refine ⟨escapeChar rest mark, ?_⟩
    rw [escapeChar_append, escapeChar_append]
    simp [escapeChar]

/-- Escaping line breaks keeps all other marks where they are. -/
theorem concat_prefix_escapeLineBreaks_iff (other : mark ≠ '\\') (inLine : mark ≠ '\n')
    (visible : mark ≠ '\r') {part : Text} :
    part ++ [mark] <+: escapeLineBreaks text ↔
      ∃ before : Text, before ++ [mark] <+: text ∧ part = escapeLineBreaks before := by
  constructor
  · intro marked
    fun_induction escapeLineBreaks text generalizing part with
    | case1 => simp at marked
    | case2 rest ih =>
        simp only [concat_prefix_cons_iff, other, visible, inLine, and_false, false_or] at marked
        obtain ⟨_, ⟨_, ⟨later, following, rfl⟩, rfl⟩, rfl⟩ := marked
        obtain ⟨before, passed, rfl⟩ := ih following
        exact ⟨'\r' :: '\n' :: before, by simpa using passed, rfl⟩
    | case3 rest ih =>
        simp only [concat_prefix_cons_iff, other, inLine, and_false, false_or] at marked
        obtain ⟨_, ⟨later, following, rfl⟩, rfl⟩ := marked
        obtain ⟨before, passed, rfl⟩ := ih following
        exact ⟨'\n' :: before, by simpa using passed, by simp [escapeLineBreaks]⟩
    | case4 character rest notBoth notFeed ih =>
        rcases concat_prefix_cons_iff.mp marked with ⟨rfl, rfl⟩ | ⟨later, following, rfl⟩
        · exact ⟨[], List.prefix_append [mark] rest, rfl⟩
        · obtain ⟨before, passed, rfl⟩ := ih following
          refine ⟨character :: before, List.cons_prefix_cons.mpr ⟨rfl, passed⟩, ?_⟩
          rw [escapeLineBreaks.eq_4 character before _ notFeed]
          -- A line feed that starts what was passed starts the rest as well.
          rintro after rfl rfl
          obtain ⟨others, rfl⟩ := passed
          exact notBoth _ rfl rfl
  · rintro ⟨before, ⟨rest, rfl⟩, rfl⟩
    have alone : escapeLineBreaks [mark] = [mark] := by
      rw [escapeLineBreaks.eq_4 mark [] (by simp) inLine]
      rfl
    rw [escapeLineBreaks_append (by simp [visible]), escapeLineBreaks_append (by simp [inLine]),
      alone]
    exact List.prefix_append _ _

/-- What stands before a quote of the escaped text is what stands before it in the text, escaped,
and the backslash that escapes the quote. -/
theorem concat_prefix_escapeWithin_iff (other : quote ≠ '\\') (inLine : quote ≠ '\n')
    (visible : quote ≠ '\r') {part : Text} :
    part ++ [quote] <+: text.escapeWithin quote ↔
      ∃ before : Text, before ++ [quote] <+: text ∧
        part = before.escapeWithin quote ++ ['\\'] := by
  have behind (before : Text) : escapeLineBreaks (before.escapeChar quote ++ ['\\']) =
      before.escapeWithin quote ++ ['\\'] :=
    escapeLineBreaks_append (by simp)
  rw [escapeWithin, concat_prefix_escapeLineBreaks_iff other inLine visible]
  constructor
  · rintro ⟨escaped, quoted, rfl⟩
    obtain ⟨before, passed, rfl⟩ := (concat_prefix_escapeChar_iff other).mp quoted
    exact ⟨before, passed, behind before⟩
  · rintro ⟨before, passed, rfl⟩
    exact ⟨_, (concat_prefix_escapeChar_iff other).mpr ⟨before, passed, rfl⟩, (behind before).symm⟩

/-- A text is fit to be quoted if after escaping each of its quotes stands behind an odd number of
backslashes, and the quote behind it behind an even one. -/
theorem quotable_iff (other : quote ≠ '\\') (inLine : quote ≠ '\n') (visible : quote ≠ '\r') :
    text.Quotable quote ↔
      (∀ part : Text, part ++ [quote] <+: text.escapeWithin quote → Odd part.backslashesAtEnd) ∧
        Even (text.escapeWithin quote).backslashesAtEnd := by
  have parity (before : Text) :
      Odd (before.escapeWithin quote ++ ['\\'] : Text).backslashesAtEnd ↔
        Even before.backslashesAtEnd := by
    rw [backslashesAtEnd_concat, if_pos rfl, backslashesAtEnd_escapeWithin other,
      Nat.odd_add_one, Nat.not_odd_iff_even]
  rw [backslashesAtEnd_escapeWithin other]
  constructor
  · intro quotable
    refine ⟨?_, quotable text (List.prefix_refl _)⟩
    intro part quoted
    obtain ⟨before, passed, rfl⟩ := (concat_prefix_escapeWithin_iff other inLine visible).mp quoted
    exact (parity before).mpr (quotable before (passed.trans (List.prefix_append text [quote])))
  · rintro ⟨escaped, paired⟩ before quoted
    rcases List.prefix_concat_iff.mp quoted with whole | passed
    · obtain rfl := List.append_cancel_right whole
      exact paired
    · apply (parity before).mp
      refine escaped _ ((concat_prefix_escapeWithin_iff other inLine visible).mpr ?_)
      exact ⟨before, passed, rfl⟩

end SourceWriter.Text
