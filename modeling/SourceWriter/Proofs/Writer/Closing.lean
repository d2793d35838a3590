import SourceWriter.Proofs.Lexical.BlockComments
import SourceWriter.Proofs.Lexical.Modes

/-! # Closing comments

A line comment is closed by the end of its line, and a block comment by its mark. Before the mark
there may go a line break that was owed, indentation and a space, none of which a block comment
notices (`Spells.inBlock`), so that its star and slash are read next to each other whatever was
written before them. What is around the comment stays as it is, and nothing but blanks is added to
the mark (`Writer.closeComment_closes`).
-/

namespace SourceWriter

/-- Any number of spaces, tabs and terminators. -/
inductive Terminator.Blanks (terminator : Terminator) : Text → Prop where
  | nothing : Blanks terminator []
  | space {rest : Text} (blanks : Blanks terminator rest) : Blanks terminator (' ' :: rest)
  | tab {rest : Text} (blanks : Blanks terminator rest) : Blanks terminator ('\t' :: rest)
  | lineEnd {rest : Text} (blanks : Blanks terminator rest) :
      Blanks terminator (terminator.text ++ rest)

namespace Terminator

variable {terminator : Terminator}

theorem Blanks.append {first second : Text} (one : terminator.Blanks first)
    (two : terminator.Blanks second) : terminator.Blanks (first ++ second) := by
  induction one with
  | nothing => exact two
  | space _ ih => exact ih.space
  | tab _ ih => exact ih.tab
  | lineEnd _ ih =>
      rw [List.append_assoc]
      exact ih.lineEnd

theorem blanks_of_spaces {part : Text}
    (spaces : ∀ character ∈ part, character = ' ' ∨ character = '\t') :
    terminator.Blanks part := by
  induction part with
  | nil => exact .nothing
  | cons character rest ih =>
      obtain ⟨first, later⟩ := List.forall_mem_cons.mp spaces
      rcases first with rfl | rfl
      · exact (ih later).space
      · exact (ih later).tab

theorem blanks_text (terminator : Terminator) : terminator.Blanks terminator.text := by
  rw [← List.append_nil terminator.text]
  exact .lineEnd .nothing

end Terminator

namespace Spells

variable {parts : List Text} {before after : Writer}

/-- Where only spaces and tabs are spelled out, only blanks are added. -/
theorem exists_blanks (spelled : Spells parts before after)
    (spaces : ∀ part ∈ parts, ∀ character ∈ part, character = ' ' ∨ character = '\t') :
    ∃ blanks, before.options.terminator.Blanks blanks ∧ after.text = before.text ++ blanks := by
  induction spelled with
  | nothing => exact ⟨[], .nothing, by simp⟩
  | @newLine parts before after spelled ih =>
      obtain ⟨blanks, known, text⟩ := ih spaces
      have same : after.options = before.options := spelled.marks.strokes.options_eq
      refine ⟨blanks ++ before.options.terminator.text,
        known.append before.options.terminator.blanks_text, ?_⟩
      rw [Writer.text_newLine, text, same, List.append_assoc]
  | @put parts before after spelled settled part noFeed ih =>
      obtain ⟨earlier, last⟩ := List.forall_mem_append.mp spaces
      obtain ⟨blanks, known, text⟩ := ih earlier
      obtain ⟨margin, marginSpaces, started⟩ := after.exists_spaces_startLine
      have partSpaces := last part List.mem_cons_self
      refine ⟨blanks ++ (margin ++ part), known.append
        ((Terminator.blanks_of_spaces marginSpaces).append
          (Terminator.blanks_of_spaces partSpaces)), ?_⟩
      rw [Writer.put, Writer.text_append, started, text]
      simp only [List.append_assoc]

/-- A block comment does not notice what has no slash in it, indentation and line breaks around it
included. -/
theorem inBlock {contexts : List Lexical.Context} (spelled : Spells parts before after)
    (noSlash : ∀ part ∈ parts, '/' ∉ part) (inBlock : before.lexical.InBlock contexts) :
    after.lexical.InBlock contexts := by
  induction spelled with
  | nothing => exact inBlock
  | newLine _ ih => exact (ih noSlash inBlock).endLine
  | @put parts before after spelled settled part noFeed ih =>
      obtain ⟨earlier, last⟩ := List.forall_mem_append.mp noSlash
      rw [Writer.put, Writer.lexical_append, Writer.lexical_startLine]
      exact (ih earlier inBlock).feed_of_not_mem (last part List.mem_cons_self) _

end Spells

namespace Lexical.State.Sound

variable {state : State}

/-- What is around a block comment is code. -/
theorem inBlock (sound : state.Sound) (block : state.comment = some .block) :
    state.InBlock state.contexts ∧ Unquoted state.contexts := by
  have commented : state.inComment = true := by rw [inComment, block, Option.isSome_some]
  refine ⟨⟨block, rfl, ?_⟩, ?_⟩
  · by_contra regex
    rw [(sound.regex (by simpa using regex)).1] at commented
    contradiction
  · intro quote outer same
    have outside := sound.comment commented
    rw [inString, same] at outside
    contradiction

end Lexical.State.Sound

namespace Writer

open Lexical

variable {writer : Writer}

/-- The writer right before the mark that closes its block comment. -/
def beforeMark (writer : Writer) : Writer :=
  (if writer.endsLine then writer else writer.spaceIfLastNot).settle

/-- A block comment is ended by its mark, on the line or behind the indentation of a new one. -/
theorem closeComment_of_block (block : writer.lexical.comment = some .block) :
    writer.closeComment = writer.beforeMark.startLine.append ['*', '/'] := by
  rw [closeComment, block, write, putText_of_not_mem (by decide)]
  rfl

/-- There is at most a space to set off the mark. -/
theorem exists_spells_beforeMark (writer : Writer) :
    ∃ parts, Spells parts writer writer.beforeMark ∧ ∀ part ∈ parts, part = [' '] := by
  unfold beforeMark
  split
  · exact ⟨[], writer.spells_settle, by simp⟩
  · refine ⟨_, writer.spells_spaceIfLastNot.trans (spells_settle _), ?_⟩
    intro part member
    rw [List.append_nil] at member
    exact eq_of_mem_padding member

/-- The comment is closed: what is around it is as before, and nothing but blanks and the mark of a
block comment is added. -/
structure ClosedAs (writer closed : Writer) : Prop where
  comment : closed.lexical.comment = none
  around : closed.lexical.contexts = writer.lexical.contexts
  regex : closed.inRegex = writer.inRegex
  added : ∃ blanks, writer.options.terminator.Blanks blanks ∧
    closed.text = writer.text ++ blanks ++
      if writer.lexical.comment = some .block then ['*', '/'] else []

theorem closeComment_of_none (none : writer.lexical.comment = none) :
    writer.closeComment = writer := by
  rw [closeComment, none]

theorem closedAs_of_none (none : writer.lexical.comment = none) : writer.ClosedAs writer :=
  ⟨none, rfl, rfl, [], .nothing, by simp [none]⟩

/-- No regular expression is open in a comment, so that the end of the line closes nothing else. -/
theorem closedAs_of_line (sound : writer.lexical.Sound)
    (line : writer.lexical.comment = some .line) : writer.ClosedAs writer.newLine := by
  have regex : writer.lexical.inRegex = false := by
    by_contra inside
    have excluded := (sound.regex (by simpa using inside)).1
    rw [State.inComment, line] at excluded
    contradiction
  refine ⟨?_, rfl, regex.symm, _, writer.options.terminator.blanks_text, ?_⟩
  · change writer.lexical.endLine.comment = none
    rw [State.endLine, if_pos line]
  · rw [text_newLine, line]
    simp

/-- The mark of a block comment leads back to the code around it, and all that is added with it is
blank. -/
theorem closedAs_of_block (sound : writer.lexical.Sound)
    (block : writer.lexical.comment = some .block) :
    writer.ClosedAs (writer.beforeMark.startLine.append ['*', '/']) := by
  obtain ⟨inside, code⟩ := sound.inBlock block
  obtain ⟨parts, spelled, spaces⟩ := writer.exists_spells_beforeMark
  obtain ⟨margin, marginSpaces, started⟩ := writer.beforeMark.exists_spaces_startLine
  have before : writer.beforeMark.startLine.lexical.InBlock writer.lexical.contexts := by
    rw [lexical_startLine]
    apply spelled.inBlock _ inside
    intro part member
    simp [spaces part member]
  -- Whatever stands before the star, it does not end the comment, and so the slash does.
  have starred : (writer.beforeMark.startLine.lexical.update
      (.ofText writer.beforeMark.startLine.text) '*').InBlock writer.lexical.contexts :=
    before.update fun _ => by decide
  obtain ⟨justEscaped, closed⟩ : ∃ justEscaped,
      (writer.beforeMark.startLine.append ['*', '/']).lexical =
        .within writer.lexical.contexts false justEscaped := by
    rw [lexical_append, State.feed_cons, State.feed_cons, State.feed_nil]
    exact ⟨_, starred.update_mark code (by simp [LookBehind.ofText])⟩
  refine ⟨?_, ?_, ?_, ?_⟩
  · rw [closed]
    rfl
  · rw [closed]
    rfl
  · rw [inRegex, inRegex, closed, inside.regex]
    rfl
  · obtain ⟨blanks, known, text⟩ := spelled.exists_blanks fun part member character inPart => by
      rw [spaces part member] at inPart
      exact .inl (List.mem_singleton.mp inPart)
    refine ⟨blanks ++ margin, known.append (Terminator.blanks_of_spaces marginSpaces), ?_⟩
    rw [text_append, started, text, if_pos block, List.append_assoc writer.text]

/-- Closing a comment leads out of any comment, and all that is added is its mark and blanks. -/
theorem closedAs_closeComment (sound : writer.lexical.Sound) :
    writer.ClosedAs writer.closeComment := by
  cases comment : writer.lexical.comment with
  | none =>
      rw [closeComment_of_none comment]
      exact closedAs_of_none comment
  | some kind =>
      cases kind with
      | line =>
          have closes : writer.closeComment = writer.newLine := by rw [closeComment, comment]
          rw [closes]
          exact closedAs_of_line sound comment
      | block =>
          rw [closeComment_of_block comment]
          exact closedAs_of_block sound comment

/-- **Closing comments.** However a writer has come about, it is in no comment afterwards, what was
around the comment is as before, blanks and in a block comment its closing mark are all that is
added, without a comment nothing is done, and nothing is left to do the second time. -/
theorem closeComment_closes (reachable : writer.Reachable) :
    let closed := writer.closeComment
    closed.inComment = false ∧ closed.lexical.contexts = writer.lexical.contexts ∧
      closed.inRegex = writer.inRegex ∧
      (∃ blanks, writer.options.terminator.Blanks blanks ∧
        closed.text = writer.text ++ blanks ++
          if writer.lexical.comment = some .block then ['*', '/'] else []) ∧
      (writer.inComment = false → closed = writer) ∧
      closed.closeComment = closed := by
  intro closed
  obtain ⟨comment, around, regex, added⟩ := closedAs_closeComment reachable.sound
  refine ⟨?_, around, regex, added, ?_, closeComment_of_none comment⟩
  · rw [inComment, State.inComment, comment, Option.isSome_none]
  · intro outside
    apply closeComment_of_none
    simpa [inComment, State.inComment] using outside

/-- A block comment in a hole of a template literal, right behind a star where a line break is
owed: the mark stands on the next line. -/
theorem closeComment_closes_in_hole :
    let body : Program := .act (.write "`$\x7b /* a *".toList) .done
    let writer :=
      (Program.within .indentBlock body .done).run { options := { terminator := .crlf } }
    let closed := writer.closeComment
    writer.Reachable ∧ writer.owesLine = true ∧ writer.lexical.comment = some .block ∧
      closed.inComment = false ∧ closed.lexical.contexts = [.hole, .literal .backtick] ∧
      closed.text = writer.text ++ "\r\n ".toList ++ ['*', '/'] ∧
      closed.closeComment = closed := by
  intro body writer closed
  have created : Writer.new { terminator := .crlf } = .ok _ := rfl
  have reachable : writer.Reachable := .run created (.within .indentBlock body .done)
  obtain ⟨comment, around, _, _, _, again⟩ := closeComment_closes reachable
  have contexts : writer.lexical.contexts = [.hole, .literal .backtick] := by decide +kernel
  exact ⟨reachable, by decide +kernel, by decide +kernel, comment, around.trans contexts,
    by decide +kernel, again⟩

end Writer

end SourceWriter
