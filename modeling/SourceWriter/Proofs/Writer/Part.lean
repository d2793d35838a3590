import SourceWriter.Proofs.Lexical.Blank
import SourceWriter.Proofs.Text.Cut
import SourceWriter.Writer.Content

/-! # Writing parts of lines

What a writer does with the lines of a text, one at a time. Indentation is made of spaces and
tabs, and only goes where a line starts (`Writer.atLineStart_iff`). A part of a line that is not
empty starts the line (`Writer.atLineStart_append`), so that what follows it on the same line is
appended as it is. A text that is not empty is written line by line with line breaks between
(`Writer.putText_eq_putJoined`).
-/

namespace SourceWriter

/-- Spaces and tabs end no line. -/
theorem Text.not_mem_of_spaces {part : Text}
    (spaces : ∀ character ∈ part, character = ' ' ∨ character = '\t') : '\n' ∉ part := by
  intro member
  rcases spaces '\n' member with same | same <;> contradiction

/-- After the end of a line there is a blank to look back at. -/
theorem Terminator.blank_append_text (terminator : Terminator) (text : Text) :
    (Lexical.LookBehind.ofText (text ++ terminator.text)).Blank := by
  apply Lexical.LookBehind.blank_ofText_append
  · intro character member
    cases terminator with
    | lf =>
        obtain rfl := List.mem_singleton.mp member
        rfl
    | crlf =>
        obtain rfl | rfl : character = '\r' ∨ character = '\n' := by
          simpa [Terminator.text] using member
        · rfl
        · rfl
  · intro empty
    cases terminator <;> contradiction

namespace Options

/-- A level is written with spaces or a tab. -/
theorem space_of_mem_unit {options : Options} {character : Char}
    (member : character ∈ options.unit) : character = ' ' ∨ character = '\t' := by
  unfold unit at member
  split at member
  · exact .inr (List.mem_singleton.mp member)
  · exact .inl (List.eq_of_mem_replicate member)

/-- Valid options write something for a level. -/
theorem Valid.unit_ne_nil {options : Options} (valid : options.Valid) : options.unit ≠ [] := by
  unfold unit
  split
  · exact List.cons_ne_nil _ _
  · have positive : options.width ≠ 0 := Nat.ne_of_gt valid
    simp [positive]

/-- Indentation is made of spaces and tabs. -/
theorem space_of_mem_indentation {options : Options} {level : Rat} {character : Char}
    (member : character ∈ options.indentation level) : character = ' ' ∨ character = '\t' := by
  rcases List.mem_append.mp member with units | part
  · obtain ⟨unit, copies, inside⟩ := List.mem_flatten.mp units
    obtain rfl := List.eq_of_mem_replicate copies
    exact space_of_mem_unit inside
  · split at part
    · split at part
      · exact space_of_mem_unit part
      · contradiction
    · exact space_of_mem_unit (List.mem_of_mem_take part)

theorem isBlank_of_mem_indentation {options : Options} {level : Rat} {character : Char}
    (member : character ∈ options.indentation level) : Lexical.isBlank character = true :=
  Lexical.isBlank_of_space (space_of_mem_indentation member)

/-- Indentation has no line end. -/
theorem not_mem_indentation (options : Options) (level : Rat) :
    '\n' ∉ options.indentation level := by
  apply Text.not_mem_of_spaces
  intro character member
  exact space_of_mem_indentation member

end Options

namespace Writer

/-! ### Line breaks that are owed -/

@[simp] theorem owesLine_settle (writer : Writer) : writer.settle.owesLine = false := by
  unfold settle
  split
  · rfl
  · simp_all

@[simp] theorem options_settle (writer : Writer) : writer.settle.options = writer.options := by
  unfold settle
  split <;> rfl

theorem settle_of_settled {writer : Writer} (settled : writer.owesLine = false) :
    writer.settle = writer := by
  rw [settle, settled]
  rfl

@[simp] theorem text_newLine (writer : Writer) :
    writer.newLine.text = writer.text ++ writer.options.terminator.text :=
  text_breakLine _

theorem text_settle_of_owes {writer : Writer} (owes : writer.owesLine = true) :
    writer.settle.text = writer.text ++ writer.options.terminator.text := by
  rw [settle, if_pos owes, text_newLine]

/-- Where none is owed, a line break only ends the line. -/
theorem newLine_eq_breakLine {writer : Writer} (settled : writer.owesLine = false) :
    writer.newLine = writer.breakLine := by
  rw [newLine, ← settled]

@[simp] theorem owesLine_newLineIfLastNot (writer : Writer) :
    writer.newLineIfLastNot.owesLine = false := by
  simp only [newLineIfLastNot]
  split
  · exact owesLine_settle writer
  · rfl

@[simp] theorem owesLine_startLine (writer : Writer) :
    writer.startLine.owesLine = writer.owesLine := by
  unfold startLine
  split <;> rfl

@[simp] theorem owesLine_putLine (writer : Writer) (line : Text) :
    (writer.putLine line).owesLine = writer.owesLine := by
  unfold putLine
  split
  · rfl
  · exact owesLine_startLine writer

@[simp] theorem owesLine_putLines (writer : Writer) (lines : List Text) :
    (writer.putLines lines).owesLine = writer.owesLine := by
  induction lines generalizing writer with
  | nil => rfl
  | cons line rest ih =>
      refine (ih (writer.breakLine.putLine line)).trans ?_
      rw [owesLine_putLine, breakLine, push]

@[simp] theorem owesLine_putText (writer : Writer) (text : Text) :
    (writer.putText text).owesLine = writer.owesLine := by
  unfold putText
  split
  · exact owesLine_startLine writer
  · cases text.lines with
    | nil => rfl
    | cons first rest => rw [owesLine_putLines, owesLine_putLine]

/-! ### Starts of lines -/

/-- A line starts where the last character is a line feed, or there is none. -/
theorem atLineStart_iff {writer : Writer} :
    writer.atLineStart = true ↔ ∀ character ∈ writer.lastChar, character = '\n' := by
  unfold atLineStart isEmpty endsLine lastChar
  cases writer.written with
  | nil => simp
  | cons last before => simp

theorem atLineStart_breakLine (writer : Writer) : writer.breakLine.atLineStart = true := by
  have last : writer.breakLine.lastChar = some '\n' := by
    rw [lastChar_eq_getLast?, text_breakLine]
    cases writer.options.terminator <;> simp [Terminator.text]
  rw [atLineStart, endsLine, last]
  exact Bool.or_true _

/-- At the start of a line there is nothing to look back at but a line feed. -/
theorem blank_of_atLineStart {writer : Writer} (start : writer.atLineStart = true) :
    (Lexical.LookBehind.ofText writer.text).Blank := by
  intro character last
  rw [Lexical.LookBehind.ofText, ← lastChar_eq_getLast?] at last
  obtain rfl := atLineStart_iff.mp start character last
  rfl

/-- Before the first character of a line there are spaces and tabs at most. -/
theorem exists_spaces_startLine (writer : Writer) :
    ∃ spaces : Text, (∀ character ∈ spaces, character = ' ' ∨ character = '\t') ∧
      writer.startLine.text = writer.text ++ spaces := by
  unfold startLine
  split
  · exact ⟨_, fun _ member => Options.space_of_mem_indentation member, text_push writer _⟩
  · exact ⟨[], by simp, by simp⟩

/-- A line started with or without indentation has only blanks to look back at. -/
theorem blank_startLine {writer : Writer} (start : writer.atLineStart = true) :
    (Lexical.LookBehind.ofText writer.startLine.text).Blank := by
  obtain ⟨margin, spaces, started⟩ := writer.exists_spaces_startLine
  rw [started]
  apply Lexical.LookBehind.blank_ofText_append
  · intro character member
    exact Lexical.isBlank_of_space (spaces character member)
  · intro _
    exact blank_of_atLineStart start

/-- A line that has started gets no indentation. -/
theorem startLine_of_started {writer : Writer} (started : writer.atLineStart = false) :
    writer.startLine = writer := by
  simp [startLine, started]

/-- Indentation is not read. -/
@[simp] theorem lexical_startLine (writer : Writer) :
    writer.startLine.lexical = writer.lexical := by
  unfold startLine
  split <;> rfl

/-- Starting a line changes no options. -/
@[simp] theorem options_startLine (writer : Writer) :
    writer.startLine.options = writer.options := by
  unfold startLine
  split <;> rfl

/-! ### Parts of lines -/

@[simp] theorem append_nil (writer : Writer) : writer.append [] = writer := rfl

/-- Appending twice is appending both at once. -/
theorem append_append (writer : Writer) (first second : Text) :
    (writer.append first).append second = writer.append (first ++ second) := by
  have written : ((writer.append first).append second).written =
      (writer.append (first ++ second)).written := by
    simp [append, push]
  have lexical : ((writer.append first).append second).lexical =
      (writer.append (first ++ second)).lexical := by
    rw [lexical_append, lexical_append, lexical_append, text_append, Lexical.State.feed_append]
  calc (writer.append first).append second
      = { writer with
          written := ((writer.append first).append second).written
          lexical := ((writer.append first).append second).lexical } := rfl
    _ = { writer with
          written := (writer.append (first ++ second)).written
          lexical := (writer.append (first ++ second)).lexical } := by rw [written, lexical]

/-- Putting a part of a line arranges nothing. -/
theorem put_frame (writer : Writer) (part : Text) :
    (writer.put part).options = writer.options ∧ (writer.put part).level = writer.level ∧
      (writer.put part).queued = writer.queued ∧ (writer.put part).owesLine = writer.owesLine := by
  simp only [put, append, push, startLine]
  split <;> exact ⟨rfl, rfl, rfl, rfl⟩

theorem lastChar_append {part : Text} (nonempty : part ≠ []) (writer : Writer) :
    (writer.append part).lastChar = part.getLast? := by
  obtain ⟨last, ends⟩ := Option.isSome_iff_exists.mp (List.getLast?_isSome.mpr nonempty)
  rw [lastChar_eq_getLast?, text_append, List.getLast?_append, ends, Option.some_or]

theorem endsLine_append {part : Text} (nonempty : part ≠ []) (noFeed : '\n' ∉ part)
    (writer : Writer) : (writer.append part).endsLine = false := by
  rw [endsLine, lastChar_append nonempty, beq_eq_false_iff_ne]
  intro feed
  exact noFeed (List.mem_of_getLast? feed)

/-- After a part of a line that is not empty, the line has started. -/
theorem atLineStart_append {part : Text} (nonempty : part ≠ []) (noFeed : '\n' ∉ part)
    (writer : Writer) : (writer.append part).atLineStart = false := by
  have written : (writer.append part).isEmpty = false := by
    rw [isEmpty_eq_isEmpty_text, text_append]
    simp [nonempty]
  rw [atLineStart, written, endsLine_append nonempty noFeed, Bool.or_false]

/-! ### Lines of a text -/

/-- Writes lines, with a line break between each two. -/
def putJoined (writer : Writer) : List Text → Writer
  | [] => writer
  | first :: rest => (writer.putLine first).putLines rest

theorem putJoined_cons {lines : List Text} (nonempty : lines ≠ []) (writer : Writer)
    (line : Text) :
    writer.putJoined (line :: lines) = (writer.putLine line).breakLine.putJoined lines := by
  cases lines with
  | nil => contradiction
  | cons next rest => rfl

/-- A text that is not empty is written line by line. -/
theorem putText_eq_putJoined {text : Text} (nonempty : text ≠ []) (writer : Writer) :
    writer.putText text = writer.putJoined text.lines := by
  simp only [putText, List.isEmpty_iff, nonempty, ↓reduceIte]
  rfl

/-- A text without a line feed is put as one part of a line. -/
theorem putText_of_not_mem {text : Text} (noFeed : '\n' ∉ text) (writer : Writer) :
    writer.putText text = writer.put text := by
  by_cases empty : text = []
  · subst empty
    rfl
  · rw [putText_eq_putJoined empty, Text.lines_of_not_mem noFeed]
    simp only [putJoined, putLines, List.foldl_nil, putLine, List.isEmpty_iff, empty, ↓reduceIte]

theorem put_of_started {writer : Writer} (started : writer.atLineStart = false) (part : Text) :
    writer.put part = writer.append part := by
  rw [put, startLine_of_started started]

/-- Where a line has started, a text without line feeds is appended as it is. -/
theorem putText_of_started {writer : Writer} (started : writer.atLineStart = false) {text : Text}
    (noFeed : '\n' ∉ text) : writer.putText text = writer.append text := by
  rw [putText_of_not_mem noFeed, put_of_started started]

/-! ### Padding -/

/-- Puts a space or tab unless the text ends in it. -/
def padWith (writer : Writer) (character : Char) : Writer :=
  if writer.lastChar == some character then writer else writer.putText [character]

theorem spaceIfLastNot_eq_padWith (writer : Writer) :
    writer.spaceIfLastNot = writer.settle.padWith ' ' := rfl

theorem tabIfLastNot_eq_padWith (writer : Writer) :
    writer.tabIfLastNot = writer.settle.padWith '\t' := rfl

@[simp] theorem owesLine_padWith (writer : Writer) (character : Char) :
    (writer.padWith character).owesLine = writer.owesLine := by
  unfold padWith
  split
  · rfl
  · exact owesLine_putText writer _

end Writer

end SourceWriter
