import SourceWriter.Proofs.Lexical.Rescan
import SourceWriter.Proofs.Writer.Stroke

/-! # The lexical state of a writer is that of its text

A writer never reads its text again, and never shows its lexical state the indentation and the
line ends that it adds. The state is nevertheless the one that reading the text afresh gives
(`Program.lexical_eq_rescan`): at the start of a line, the only place where indentation goes,
everything is at rest, and blanks leave it so. The invariant is `Writer.Tracked`.
-/

namespace SourceWriter

namespace Writer

/-- The lexical state is that of the text, and at the start of a line it is at rest. -/
structure Tracked (writer : Writer) : Prop where
  lexical_eq : writer.lexical = Lexical.rescan writer.options.terminator writer.text
  atRest : writer.atLineStart = true → writer.lexical.AtRest

namespace Tracked

variable {writer : Writer}

/-- Indentation does not change what the text is inside of. -/
theorem startLine (tracked : writer.Tracked) : writer.startLine.Tracked := by
  unfold Writer.startLine
  split
  · rename_i condition
    obtain ⟨start, _⟩ := Bool.and_eq_true_iff.mp condition
    have rest := tracked.atRest start
    have unmoved : writer.lexical.feed writer.text writer.indentation = writer.lexical := by
      apply rest.feedFrom_blank (blank_of_atLineStart start)
      intro character member
      exact Options.isBlank_of_mem_indentation member
    refine ⟨?_, fun _ => rest⟩
    -- The state is left as it is, but the text grows: reading the indentation changes nothing.
    rw [text_push]
    calc writer.lexical
        = writer.lexical.feed writer.text writer.indentation := unmoved.symm
      _ = (Lexical.rescan writer.options.terminator writer.text).feed writer.text
            writer.indentation := by rw [← tracked.lexical_eq]
      _ = Lexical.rescan writer.options.terminator (writer.text ++ writer.indentation) :=
          (Lexical.rescan_append_of_not_mem (Options.not_mem_indentation _ _)).symm
  · exact tracked

/-- A part of a line is fed as it is written. -/
theorem append (tracked : writer.Tracked) {part : Text} (noFeed : '\n' ∉ part) :
    (writer.append part).Tracked := by
  by_cases empty : part = []
  · rw [empty, append_nil]
    exact tracked
  · constructor
    · rw [lexical_append, text_append, tracked.lexical_eq]
      exact (Lexical.rescan_append_of_not_mem noFeed).symm
    · intro start
      rw [atLineStart_append empty noFeed] at start
      contradiction

/-- A line break ends the line of the state. -/
theorem newLine (tracked : writer.Tracked) : writer.newLine.Tracked := by
  refine ⟨?_, fun _ => Lexical.State.atRest_endLine _⟩
  calc writer.lexical.endLine
      = (Lexical.rescan writer.options.terminator writer.text).endLine := by
        rw [← tracked.lexical_eq]
    _ = Lexical.rescan writer.options.terminator (writer.text ++ writer.options.terminator.text) :=
        (Lexical.rescan_append_terminator writer.text).symm
    _ = Lexical.rescan writer.options.terminator writer.newLine.text := by
        rw [Writer.newLine, text_breakLine]
        rfl

/-- Every stroke keeps track. -/
theorem stroke {after : Writer} (tracked : writer.Tracked) (stroke : Stroke writer after) :
    after.Tracked := by
  cases stroke with
  | newLine => exact tracked.newLine
  | put settled noFeed => exact tracked.startLine.append noFeed
  | owe unended => exact ⟨tracked.lexical_eq, tracked.atRest⟩
  | arrange level queued onFirstLine => exact ⟨tracked.lexical_eq, tracked.atRest⟩

/-- However much is written, the state is tracked. -/
theorem strokes {after : Writer} (tracked : writer.Tracked) (strokes : Strokes writer after) :
    after.Tracked := by
  induction strokes with
  | refl => exact tracked
  | tail _ last ih => exact ih.stroke last

end Tracked

/-- A writer without text is tracked. -/
theorem tracked_fresh (options : Options) : Tracked { options } := by
  refine ⟨?_, fun _ => rfl⟩
  cases terminator : options.terminator <;> rfl

end Writer

/-- **Tracking is reading afresh.** Whatever program a new writer runs, after every action and at
both ends of every scope its lexical state is the one at the end of its text, read afresh. -/
theorem Program.lexical_eq_rescan {options : Options} {fresh : Writer}
    (created : Writer.new options = .ok fresh) (program : Program) {event : Event}
    (member : event ∈ program.trace fresh) :
    event.after.lexical = Lexical.rescan options.terminator event.after.text := by
  obtain ⟨_, rfl⟩ := Writer.new_eq_ok_iff.mp created
  have reached := program.strokes_trace member
  have tracked := (Writer.tracked_fresh options).strokes reached
  rw [tracked.lexical_eq, reached.options_eq]

/-- Indentation in a hole of a template literal, and a carriage return and line feed before it. -/
theorem Program.lexical_eq_rescan_in_hole :
    let options : Options := { terminator := .crlf }
    let action : Action := .write ['`', '$', '{', '\n', '"']
    let program : Program := .within .indentBlock (.act action .done) .done
    Writer.new options = .ok { options } ∧
      ∃ event ∈ program.trace { options },
        event.after.text = "    `$\x7b\r\n    \"".toList ∧
        event.after.lexical.contexts = [.literal .double, .hole, .literal .backtick] ∧
        event.after.lexical = Lexical.rescan options.terminator event.after.text := by
  intro options action program
  have created : Writer.new options = .ok { options } := rfl
  refine ⟨created, _, List.mem_cons_of_mem _ List.mem_cons_self, ?_, ?_, ?_⟩
  · decide +kernel
  · decide +kernel
  · exact lexical_eq_rescan created program (List.mem_cons_of_mem _ List.mem_cons_self)

end SourceWriter
