import SourceWriter.Proofs.Text.Cut
import SourceWriter.Text.Escape

/-! # Line ends

A text is ended by a terminator if its line feeds are those of that terminator alone
(`Text.EndedBy`). Rejoining the lines of a text by line feeds ends it so only if no line ends in a
carriage return (`Terminator.endsClean_of_endedBy`): the first of two carriage returns before a line
feed belongs to the line, and is left to stand before the line feed that is written for the pair.
Such a text is read with other lines than those it was made of, so that rejoining it again changes
it (`Terminator.rejoin_rejoin_iff`).
-/

namespace SourceWriter

namespace Text

/-- Every line feed of the text belongs to this terminator and to no other one: a carriage return is
right before it exactly if the terminator is the pair of both. -/
def EndedBy (text : Text) (terminator : Terminator) : Prop :=
  ∀ before after, text = before ++ '\n' :: after →
    (before.getLast? = some '\r' ↔ terminator = .crlf)

/-- No line of the text, its last one included, ends in a carriage return. The one that belongs to
the line feed behind it is not part of the line. -/
def EndsClean (text : Text) : Prop :=
  ∀ line ∈ text.lines, line.getLast? ≠ some '\r'

instance (text : Text) : Decidable text.EndsClean :=
  inferInstanceAs (Decidable (∀ line ∈ text.lines, line.getLast? ≠ some '\r'))

variable {text part : Text} {terminator : Terminator}

theorem endedBy_nil (terminator : Terminator) : EndedBy [] terminator := by
  intro before after split
  simp at split

/-- A part of a line holds no line feed to look at. -/
theorem EndedBy.append (ended : text.EndedBy terminator) (noFeed : '\n' ∉ part) :
    (text ++ part).EndedBy terminator := by
  intro before after split
  rcases List.append_eq_append_iff.mp split with ⟨inner, rfl, rest⟩ | ⟨inner, rfl, rest⟩
  · rw [rest] at noFeed
    exact absurd (by simp) noFeed
  · cases inner with
    | nil =>
        rw [List.nil_append] at rest
        exact absurd (rest ▸ List.mem_cons_self) noFeed
    | cons first others =>
        obtain ⟨rfl, _⟩ := List.cons.inj rest
        exact ended before others rfl

/-- What ends with a line feed is ended by the terminator up to there, if the character right before
it is a carriage return for the pair and none for the line feed alone. -/
theorem EndedBy.concat (ended : text.EndedBy terminator)
    (last : text.getLast? = some '\r' ↔ terminator = .crlf) :
    (text ++ ['\n']).EndedBy terminator := by
  intro before after split
  rcases List.append_eq_append_iff.mp split with ⟨inner, rfl, rest⟩ | ⟨inner, rfl, rest⟩
  · cases inner with
    | nil => rwa [List.append_nil]
    | cons first others => simp at rest
  · cases inner with
    | nil => rwa [List.append_nil] at last
    | cons first others =>
        obtain ⟨rfl, _⟩ := List.cons.inj rest
        exact ended before others rfl

/-- A line break keeps to the terminator, unless it puts a line feed behind a carriage return. -/
theorem EndedBy.append_text (ended : text.EndedBy terminator)
    (clean : terminator = .lf → text.getLast? ≠ some '\r') :
    (text ++ terminator.text).EndedBy terminator := by
  cases terminator with
  | lf =>
      apply ended.concat
      simpa using clean rfl
  | crlf =>
      have returned : (text ++ ['\r']).EndedBy .crlf := ended.append (by decide)
      rw [Terminator.text, ← List.singleton_append, ← List.append_assoc]
      apply returned.concat
      simp

/-- The lines of a text are ended by line feeds exactly if no carriage return stands before one. -/
theorem endedBy_lf_iff : text.EndedBy .lf ↔ ¬ ['\r', '\n'] <:+: text := by
  constructor
  · rintro ended ⟨before, after, rfl⟩
    have pair := (ended (before ++ ['\r']) after (by simp)).mp (by simp)
    contradiction
  · intro apart before after split
    constructor
    · intro last
      obtain ⟨earlier, rfl⟩ := List.getLast?_eq_some_iff.mp last
      exact absurd ⟨earlier, after, by simp [split]⟩ apart
    · intro pair
      contradiction

/-- In an escaped text with a quote behind it, every line holds something and ends in a backslash or
the quote. -/
theorem lines_escapeLineBreaks_concat {quote : Char} (inLine : quote ≠ '\n')
    (visible : quote ≠ '\r') (text : Text) :
    ∀ line ∈ lines (escapeLineBreaks text ++ [quote]), line ≠ [] ∧ line.getLast? ≠ some '\r' := by
  fun_induction escapeLineBreaks text with
  | case1 =>
      rw [List.nil_append, lines_of_not_mem (by simpa using inLine.symm)]
      simpa using visible
  | case2 rest ih => simpa [lines, pushFirst] using ih
  | case3 rest ih => simpa [lines, pushFirst] using ih
  | case4 character rest notBoth notFeed ih =>
      -- What follows starts no line, so that its first line is not empty.
      have apart : character = '\r' → (escapeLineBreaks rest ++ [quote]).head? ≠ some '\n' := by
        rintro rfl
        fun_cases escapeLineBreaks rest with
        | case1 => simpa using inLine
        | case2 => simp
        | case3 after => exact absurd rfl (notBoth after rfl)
        | case4 next after _ notFeed => simpa using notFeed
      rw [List.cons_append, lines_cons notFeed apart]
      cases cut : lines (escapeLineBreaks rest ++ [quote]) with
      | nil => exact absurd cut (lines_ne_nil _)
      | cons first others =>
          rw [cut] at ih
          obtain ⟨filled, clean⟩ := ih first List.mem_cons_self
          intro line member
          rcases List.mem_cons.mp member with rfl | later
          · refine ⟨List.cons_ne_nil _ _, ?_⟩
            rwa [List.getLast?_cons_of_ne_nil filled]
          · exact ih line (List.mem_cons_of_mem _ later)

end Text

namespace Terminator

/-- The text with this terminator for each of its line ends. -/
def rejoin (terminator : Terminator) (text : Text) : Text :=
  terminator.text.intercalate text.lines

/-- Texts in a row are rejoined one after the other, unless the cut between them separates a line
feed from its carriage return. -/
theorem rejoin_append {first second : Text}
    (uncut : first.getLast? = some '\r' → second.head? ≠ some '\n') (terminator : Terminator) :
    terminator.rejoin (first ++ second) = terminator.rejoin first ++ terminator.rejoin second := by
  rw [rejoin, Text.lines_append uncut,
    Text.intercalate_fuse (Text.lines_ne_nil first) (Text.lines_ne_nil second)]
  rfl

theorem rejoin_pair (terminator : Terminator) (rest : Text) :
    terminator.rejoin ('\r' :: '\n' :: rest) = terminator.text ++ terminator.rejoin rest :=
  List.intercalate_cons_of_ne_nil (Text.lines_ne_nil rest)

theorem rejoin_feed (terminator : Terminator) (rest : Text) :
    terminator.rejoin ('\n' :: rest) = terminator.text ++ terminator.rejoin rest := by
  rw [rejoin, Text.lines.eq_3]
  exact List.intercalate_cons_of_ne_nil (Text.lines_ne_nil rest)

theorem rejoin_cons {character : Char} {rest : Text} (inLine : character ≠ '\n')
    (apart : character = '\r' → rest.head? ≠ some '\n') (terminator : Terminator) :
    terminator.rejoin (character :: rest) = character :: terminator.rejoin rest := by
  rw [rejoin, Text.lines_cons inLine apart, rejoin]
  cases cut : rest.lines with
  | nil => exact absurd cut (Text.lines_ne_nil rest)
  | cons first others => rw [Text.pushFirst, List.intercalate_cons_cons_left]

/-- What starts with no pair, and with no line feed, starts with a character of the first line. -/
theorem not_pair_of_lines {character : Char} {rest : Text}
    (notBoth : ∀ after, character = '\r' → rest = '\n' :: after → False) :
    (character = '\r' → rest.head? ≠ some '\n') ∧ ¬ ['\r', '\n'] <+: character :: rest := by
  have apart : character = '\r' → rest.head? ≠ some '\n' := by
    rintro rfl first
    obtain ⟨after, rfl⟩ := List.head?_eq_some_iff.mp first
    exact notBoth after rfl rfl
  refine ⟨apart, ?_⟩
  rintro ⟨after, same⟩
  obtain ⟨rfl, rfl⟩ := List.cons.inj same
  exact apart rfl rfl

/-- Rejoining by a line feed leaves a text as it is if it has no pairs. -/
theorem rejoin_lf_eq_self_iff (text : Text) :
    lf.rejoin text = text ↔ ¬ ['\r', '\n'] <:+: text := by
  fun_induction Text.lines text with
  | case1 => simp [rejoin, Text.lines]
  | case2 rest ih => simp [rejoin_pair, Terminator.text, List.infix_cons_iff]
  | case3 rest ih => simpa [rejoin_feed, Terminator.text, List.infix_cons_iff] using ih
  | case4 character rest notBoth notFeed ih =>
      obtain ⟨apart, unpaired⟩ := not_pair_of_lines notBoth
      rw [rejoin_cons notFeed apart, List.cons_inj_right, ih, List.infix_cons_iff]
      simp [unpaired]

/-- A text starts with a line end exactly if it does so after rejoining. -/
theorem prefix_rejoin_lf_iff (text : Text) :
    ['\n'] <+: lf.rejoin text ↔ ['\n'] <+: text ∨ ['\r', '\n'] <+: text := by
  fun_cases Text.lines text with
  | case1 => simp [rejoin, Text.lines]
  | case2 rest => simp [rejoin_pair, Terminator.text]
  | case3 rest => simp [rejoin_feed, Terminator.text]
  | case4 character rest notBoth notFeed =>
      obtain ⟨apart, unpaired⟩ := not_pair_of_lines notBoth
      rw [rejoin_cons notFeed apart]
      simp [unpaired]

/-- A pair comes out where a second carriage return stands before a pair. -/
theorem infix_rejoin_lf_iff (text : Text) :
    ['\r', '\n'] <:+: lf.rejoin text ↔ ['\r', '\r', '\n'] <:+: text := by
  fun_induction Text.lines text with
  | case1 => simp [rejoin, Text.lines]
  | case2 rest ih => simp [rejoin_pair, Terminator.text, List.infix_cons_iff, ih]
  | case3 rest ih => simp [rejoin_feed, Terminator.text, List.infix_cons_iff, ih]
  | case4 character rest notBoth notFeed ih =>
      obtain ⟨apart, unpaired⟩ := not_pair_of_lines notBoth
      have started : ['\r', '\n'] <+: character :: lf.rejoin rest ↔
          ['\r', '\r', '\n'] <+: character :: rest := by
        rw [List.cons_prefix_cons, List.cons_prefix_cons, prefix_rejoin_lf_iff]
        refine and_congr_right ?_
        rintro rfl
        refine or_iff_right ?_
        rintro ⟨after, rfl⟩
        exact apart rfl rfl
      rw [rejoin_cons notFeed apart, List.infix_cons_iff, List.infix_cons_iff, started, ih]

/-- Joined lines are what the joined text is read with, unless a line feed is put behind a line that
ends in a carriage return. -/
theorem lines_intercalate {terminator : Terminator} {lines : List Text} (nonempty : lines ≠ [])
    (noFeeds : ∀ line ∈ lines, '\n' ∉ line)
    (clean : terminator = .lf → ∀ line ∈ lines.dropLast, line.getLast? ≠ some '\r') :
    Text.lines (terminator.text.intercalate lines) = lines := by
  induction lines with
  | nil => contradiction
  | cons line rest ih =>
      have inLine : '\n' ∉ line := noFeeds line List.mem_cons_self
      cases rest with
      | nil => rw [List.intercalate_singleton, Text.lines_of_not_mem inLine]
      | cons next others =>
          have later := ih (List.cons_ne_nil next others)
            (fun line member => noFeeds line (List.mem_cons_of_mem _ member))
            (fun feed line member => clean feed line (List.mem_cons_of_mem _ member))
          have ended (after : Text) :
              Text.lines (terminator.text ++ after) = [] :: Text.lines after := by
            cases terminator with
            | lf => exact Text.lines.eq_3 after
            | crlf => rfl
          have uncut (after : Text) (last : line.getLast? = some '\r') :
              (terminator.text ++ after).head? ≠ some '\n' := by
            cases terminator with
            | lf => exact absurd last (clean rfl line List.mem_cons_self)
            | crlf => simp [Terminator.text]
          rw [List.intercalate_cons_cons, List.append_assoc, Text.lines_append (uncut _), ended,
            later, Text.lines_of_not_mem inLine, Text.fuse_empty_cons (List.cons_ne_nil _ _)]
          rfl

/-- Rejoining twice is rejoining once, except where a line feed has been put behind a carriage
return. -/
theorem rejoin_rejoin_iff (terminator : Terminator) (text : Text) :
    terminator.rejoin (terminator.rejoin text) = terminator.rejoin text ↔
      terminator = .crlf ∨ ¬ ['\r', '\r', '\n'] <:+: text := by
  cases terminator with
  | lf => simp [rejoin_lf_eq_self_iff, infix_rejoin_lf_iff]
  | crlf =>
      have noFeeds : ∀ line ∈ text.lines, '\n' ∉ line := by
        intro line member
        exact Text.not_mem_of_mem_lines member
      have same : crlf.rejoin (crlf.rejoin text) = crlf.rejoin text := by
        rw [rejoin, rejoin, lines_intercalate (Text.lines_ne_nil text) noFeeds (by simp)]
      simp [same]

/-- Every line that is joined has a mark behind it, the last one once it is put there. -/
theorem infix_intercalate_append {lines : List Text} {line : Text} (member : line ∈ lines)
    (mark : Text) : line ++ mark <:+: mark.intercalate lines ++ mark := by
  induction lines with
  | nil => contradiction
  | cons first rest ih =>
      by_cases last : rest = []
      · subst last
        obtain rfl := List.mem_singleton.mp member
        exact ⟨[], [], by simp [List.intercalate_singleton]⟩
      · rw [List.intercalate_cons_of_ne_nil last, List.append_assoc]
        rcases List.mem_cons.mp member with rfl | later
        · exact (List.prefix_append _ _).isInfix
        · exact (ih later).trans (List.suffix_append _ _).isInfix

/-- A line that ends in a carriage return makes a pair with the line feed behind it. -/
theorem infix_pair_of_mem {lines : List Text} {line : Text} (member : line ∈ lines)
    (last : line.getLast? = some '\r') :
    ['\r', '\n'] <:+: lf.text.intercalate lines ++ lf.text := by
  obtain ⟨before, rfl⟩ := List.getLast?_eq_some_iff.mp last
  have inside := infix_intercalate_append member lf.text
  rw [List.append_assoc] at inside
  exact (List.suffix_append before _).isInfix.trans inside

/-- Where no second carriage return stands before a pair, the only line that can end in a carriage
return is the last one. -/
theorem getLast?_ne_of_mem_dropLast {text line : Text}
    (unpaired : ¬ ['\r', '\r', '\n'] <:+: text) (member : line ∈ text.lines.dropLast) :
    line.getLast? ≠ some '\r' := by
  intro last
  have joined : lf.rejoin text =
      lf.text.intercalate text.lines.dropLast ++ lf.text ++
        text.lines.getLast (Text.lines_ne_nil text) := by
    rw [← Text.intercalate_concat (List.ne_nil_of_mem member), List.dropLast_concat_getLast, rejoin]
  refine unpaired ((infix_rejoin_lf_iff text).mp ?_)
  rw [joined]
  exact (infix_pair_of_mem member last).trans (List.prefix_append _ _).isInfix

/-- What is rejoined by a line feed, with another one behind it, is ended by line feeds alone only
if no line ends in a carriage return. -/
theorem endsClean_of_endedBy {text : Text} (ended : (lf.rejoin text ++ ['\n']).EndedBy .lf) :
    text.EndsClean := by
  intro line member last
  exact Text.endedBy_lf_iff.mp ended (infix_pair_of_mem member last)

end Terminator

end SourceWriter
