import SourceWriter.Options
import SourceWriter.Text.Lines

/-! # Cutting texts into lines

Two texts in a row have the lines of the first and then those of the second, with the last line
of the one and the first line of the other fused (`Text.lines_append`). This fails only where a
line feed is cut off from the carriage return before it. The same holds where a text is cut at
one terminator alone (`Terminator.cut_append`), which loses nothing: the lines joined by the
terminator are the text again (`Terminator.intercalate_cut`).
-/

namespace SourceWriter

namespace Text

/-- The lines of two texts in a row: the last line of the first goes on with the first line of
the second. -/
def fuse : List Text → List Text → List Text
  | [], following => following
  | [line], [] => [line]
  | [line], next :: rest => (line ++ next) :: rest
  | line :: second :: rest, following => line :: fuse (second :: rest) following

theorem fuse_cons {lines : List Text} (nonempty : lines ≠ []) (line : Text)
    (following : List Text) : fuse (line :: lines) following = line :: fuse lines following := by
  cases lines with
  | nil => contradiction
  | cons second rest => rfl

theorem fuse_ne_nil {lines : List Text} (nonempty : lines ≠ []) (following : List Text) :
    fuse lines following ≠ [] := by
  match lines, following with
  | [], _ => contradiction
  | [_], [] => simp [fuse]
  | [_], _ :: _ => simp [fuse]
  | _ :: _ :: _, _ => simp [fuse]

/-- Fusing with an empty line changes nothing. -/
theorem fuse_empty_line {following : List Text} (nonempty : following ≠ []) :
    fuse [[]] following = following := by
  cases following with
  | nil => contradiction
  | cons next rest => rfl

theorem fuse_empty_cons {lines : List Text} (nonempty : lines ≠ []) (following : List Text) :
    fuse lines ([] :: following) = lines ++ following := by
  induction lines with
  | nil => contradiction
  | cons first rest ih =>
      by_cases last : rest = []
      · subst last
        simp [fuse]
      · rw [fuse_cons last, ih last, List.cons_append]

theorem intercalate_concat {lines : List Text} (nonempty : lines ≠ []) (mark line : Text) :
    mark.intercalate (lines ++ [line]) = mark.intercalate lines ++ mark ++ line := by
  induction lines with
  | nil => contradiction
  | cons first rest ih =>
      by_cases last : rest = []
      · subst last
        simp [List.intercalate_cons_cons]
      · rw [List.cons_append, List.intercalate_cons_of_ne_nil (by simp),
          List.intercalate_cons_of_ne_nil last, ih last]
        simp only [List.append_assoc]

/-- Fused lines are joined one after the other. -/
theorem intercalate_fuse {lines following : List Text} (nonempty : lines ≠ [])
    (more : following ≠ []) (mark : Text) :
    mark.intercalate (fuse lines following) =
      mark.intercalate lines ++ mark.intercalate following := by
  induction lines with
  | nil => contradiction
  | cons first rest ih =>
      by_cases last : rest = []
      · subst last
        cases following with
        | nil => contradiction
        | cons next others =>
            cases others with
            | nil => simp only [fuse, List.intercalate_singleton]
            | cons second more =>
                simp only [fuse, List.intercalate_singleton, List.intercalate_cons_cons,
                  List.append_assoc]
      · rw [fuse_cons last, List.intercalate_cons_of_ne_nil (fuse_ne_nil last following), ih last,
          List.intercalate_cons_of_ne_nil last]
        simp only [List.append_assoc]

theorem fuse_pushFirst {lines : List Text} (nonempty : lines ≠ []) (character : Char)
    (following : List Text) :
    fuse (pushFirst character lines) following = pushFirst character (fuse lines following) := by
  match lines, following with
  | [], _ => contradiction
  | [_], [] => rfl
  | [_], _ :: _ => rfl
  | _ :: _ :: _, _ => rfl

/-- A character that ends no line belongs to the first line. -/
theorem lines_cons {character : Char} {rest : Text} (inLine : character ≠ '\n')
    (apart : character = '\r' → rest.head? ≠ some '\n') :
    lines (character :: rest) = pushFirst character (lines rest) := by
  refine lines.eq_4 character rest ?_ inLine
  rintro after rfl rfl
  exact apart rfl rfl

/-- The lines of two texts in a row, unless the cut between them separates a line feed from its
carriage return. -/
theorem lines_append {first second : Text}
    (uncut : first.getLast? = some '\r' → second.head? ≠ some '\n') :
    lines (first ++ second) = fuse (lines first) (lines second) := by
  fun_induction lines first with
  | case1 => exact (fuse_empty_line (lines_ne_nil second)).symm
  | case2 rest ih =>
      rw [fuse_cons (lines_ne_nil rest),
        ← ih fun ending => uncut (by simp [List.getLast?_cons, ending])]
      rfl
  | case3 rest ih =>
      rw [fuse_cons (lines_ne_nil rest),
        ← ih fun ending => uncut (by simp [List.getLast?_cons, ending])]
      simp [lines]
  | case4 character rest notBoth notFeed ih =>
      rw [fuse_pushFirst (lines_ne_nil rest),
        ← ih fun ending => uncut (by simp [List.getLast?_cons, ending])]
      refine lines_cons notFeed ?_
      rintro rfl
      -- A carriage return stays in its line unless the line feed is right behind it.
      cases rest with
      | nil => exact uncut rfl
      | cons next after =>
          rintro same
          obtain rfl : next = '\n' := by simpa using same
          exact notBoth after rfl rfl

theorem lines_of_not_mem {text : Text} (noFeed : '\n' ∉ text) : lines text = [text] := by
  induction text with
  | nil => rfl
  | cons character rest ih =>
      obtain ⟨inLine, later⟩ := not_or.mp (mt List.mem_cons.mpr noFeed)
      have apart : rest.head? ≠ some '\n' := by
        intro feed
        exact later (List.mem_of_mem_head? feed)
      rw [lines_cons (Ne.symm inLine) fun _ => apart, ih later]
      rfl

/-- Only the empty text has an empty line and no other one. -/
theorem eq_nil_of_lines {text : Text} (single : lines text = [[]]) : text = [] := by
  fun_cases lines text with
  | case1 => rfl
  | case2 rest => exact absurd (List.cons.inj single).2 (lines_ne_nil rest)
  | case3 rest =>
      rw [lines.eq_3] at single
      exact absurd (List.cons.inj single).2 (lines_ne_nil rest)
  | case4 character rest notBoth notFeed =>
      rw [lines.eq_4 character rest notBoth notFeed] at single
      cases cut : lines rest <;> simp [cut, pushFirst] at single

/-- No line holds a line feed. -/
theorem not_mem_of_mem_lines {text line : Text} (member : line ∈ lines text) : '\n' ∉ line := by
  fun_induction lines text generalizing line with
  | case1 => simp_all
  | case2 rest ih =>
      rcases List.mem_cons.mp member with rfl | later
      · exact List.not_mem_nil
      · exact ih later
  | case3 rest ih =>
      rcases List.mem_cons.mp member with rfl | later
      · exact List.not_mem_nil
      · exact ih later
  | case4 character rest _ notFeed ih =>
      cases cut : lines rest with
      | nil => exact absurd cut (lines_ne_nil rest)
      | cons first others =>
          rw [cut, pushFirst] at member
          rw [cut] at ih
          rcases List.mem_cons.mp member with rfl | later
          · have clean : '\n' ∉ first := ih List.mem_cons_self
            simp [clean, Ne.symm notFeed]
          · exact ih (List.mem_cons_of_mem _ later)

end Text

namespace Terminator

/-- The pieces of a text between the occurrences of a terminator. -/
def cut : Terminator → Text → List Text
  | _, [] => [[]]
  | .lf, '\n' :: rest => [] :: cut .lf rest
  | .crlf, '\r' :: '\n' :: rest => [] :: cut .crlf rest
  | terminator, character :: rest => Text.pushFirst character (cut terminator rest)

theorem cut_ne_nil (terminator : Terminator) (text : Text) : terminator.cut text ≠ [] := by
  fun_cases cut terminator text with
  | case1 => simp
  | case2 => simp
  | case3 => simp
  | case4 _ character rest =>
      cases cut terminator rest <;> simp [Text.pushFirst]

/-- A character that starts no terminator belongs to the first piece. -/
theorem cut_cons {terminator : Terminator} {character : Char} {rest : Text}
    (unmarked : ¬ terminator.text <+: character :: rest) :
    terminator.cut (character :: rest) = Text.pushFirst character (terminator.cut rest) := by
  refine cut.eq_4 terminator character rest ?_ ?_
  · rintro rfl rfl
    exact unmarked ⟨rest, rfl⟩
  · rintro after rfl rfl rfl
    exact unmarked ⟨after, rfl⟩

/-- What is no terminator at the start of a text starts no terminator where more follows, unless
the text is the first half of one. -/
theorem not_prefix_append {terminator : Terminator} {character : Char} {first second : Text}
    (unmarked : ¬ terminator.text <+: character :: first)
    (uncut : terminator = .crlf → (character :: first).getLast? = some '\r' →
      second.head? ≠ some '\n') :
    ¬ terminator.text <+: character :: (first ++ second) := by
  cases terminator with
  | lf =>
      intro marked
      refine unmarked ?_
      simpa [text] using marked
  | crlf =>
      intro marked
      cases first with
      | nil =>
          cases second with
          | nil => exact unmarked marked
          | cons next rest =>
              obtain ⟨rfl, rfl⟩ : '\r' = character ∧ '\n' = next := by simpa [text] using marked
              exact uncut rfl rfl rfl
      | cons next rest =>
          refine unmarked ?_
          simpa [text] using marked

/-- The pieces of two texts in a row, unless the cut between them goes through a terminator. -/
theorem cut_append {terminator : Terminator} {first second : Text}
    (uncut : terminator = .crlf → first.getLast? = some '\r' → second.head? ≠ some '\n') :
    terminator.cut (first ++ second) =
      Text.fuse (terminator.cut first) (terminator.cut second) := by
  fun_induction cut terminator first with
  | case1 terminator => exact (Text.fuse_empty_line (cut_ne_nil terminator second)).symm
  | case2 rest ih =>
      rw [Text.fuse_cons (cut_ne_nil _ rest),
        ← ih fun pair ending => uncut pair (by simp [List.getLast?_cons, ending])]
      simp [cut]
  | case3 rest ih =>
      rw [Text.fuse_cons (cut_ne_nil _ rest),
        ← ih fun pair ending => uncut pair (by simp [List.getLast?_cons, ending])]
      simp [cut]
  | case4 terminator character rest notFeed notBoth ih =>
      have unmarked : ¬ terminator.text <+: character :: rest := by
        rintro ⟨after, same⟩
        cases terminator with
        | lf => exact notFeed rfl (List.cons.inj same).1.symm
        | crlf => exact notBoth after rfl (List.cons.inj same).1.symm (List.cons.inj same).2.symm
      rw [Text.fuse_pushFirst (cut_ne_nil _ rest),
        ← ih fun pair ending => uncut pair (by simp [List.getLast?_cons, ending])]
      exact cut_cons (not_prefix_append unmarked uncut)

/-- A text without a line feed is not cut. -/
theorem cut_of_not_mem {terminator : Terminator} {text : Text} (noFeed : '\n' ∉ text) :
    terminator.cut text = [text] := by
  induction text with
  | nil => simp [cut]
  | cons character rest ih =>
      have unmarked : ¬ terminator.text <+: character :: rest := by
        intro marked
        refine noFeed (marked.subset ?_)
        cases terminator <;> simp [Terminator.text]
      rw [cut_cons unmarked, ih fun later => noFeed (List.mem_cons_of_mem _ later)]
      rfl

/-- A terminator ends the last piece before it. -/
theorem cut_append_text_append (terminator : Terminator) (first second : Text) :
    terminator.cut (first ++ terminator.text ++ second) =
      Text.fuse (terminator.cut first) ([] :: terminator.cut second) := by
  have started : terminator.cut (terminator.text ++ second) = [] :: terminator.cut second := by
    cases terminator <;> simp [text, cut]
  rw [List.append_assoc, cut_append, started]
  rintro rfl _
  simp [text]

/-- Behind a terminator at the end there is one more piece, which is empty. -/
theorem cut_append_text (terminator : Terminator) (first : Text) :
    terminator.cut (first ++ terminator.text) = terminator.cut first ++ [[]] := by
  have followed := terminator.cut_append_text_append first []
  rw [List.append_nil] at followed
  rw [followed, Text.fuse_empty_cons (cut_ne_nil terminator first)]
  simp only [cut]

/-- Joining the pieces by the terminator gives the text. -/
theorem intercalate_cut (terminator : Terminator) (text : Text) :
    terminator.text.intercalate (terminator.cut text) = text := by
  fun_induction cut terminator text with
  | case1 terminator => rfl
  | case2 rest ih =>
      rw [List.intercalate_cons_of_ne_nil (cut_ne_nil _ rest), ih]
      rfl
  | case3 rest ih =>
      rw [List.intercalate_cons_of_ne_nil (cut_ne_nil _ rest), ih]
      rfl
  | case4 terminator character rest _ _ ih =>
      cases pieces : cut terminator rest with
      | nil => exact absurd pieces (cut_ne_nil terminator rest)
      | cons piece others =>
          rw [pieces] at ih
          rw [Text.pushFirst, List.intercalate_cons_cons_left, ih]

/-- Pieces without line feeds are what their joined text is cut into. -/
theorem cut_intercalate {terminator : Terminator} {pieces : List Text} (nonempty : pieces ≠ [])
    (noFeeds : ∀ piece ∈ pieces, '\n' ∉ piece) :
    terminator.cut (terminator.text.intercalate pieces) = pieces := by
  induction pieces with
  | nil => contradiction
  | cons piece rest ih =>
      have clean : '\n' ∉ piece := noFeeds piece List.mem_cons_self
      cases rest with
      | nil => rw [List.intercalate_singleton, cut_of_not_mem clean]
      | cons next others =>
          have later := ih (List.cons_ne_nil next others)
            fun piece member => noFeeds piece (List.mem_cons_of_mem _ member)
          rw [List.intercalate_cons_cons, cut_append_text_append, cut_of_not_mem clean, later]
          simp [Text.fuse]

end Terminator

end SourceWriter
