import SourceWriter.Proofs.LineByLine
import SourceWriter.Proofs.Text.Ends
import SourceWriter.Proofs.Writer.Between

/-! # Line ends of a writer

Whatever line ends a writer is given, it writes its own. With pairs, every line feed of its text has
the carriage return of a pair before it. With line feeds alone none has, as long as no line that it
is given ends in a carriage return; such a line is content, and the line feed that is written behind
it makes a pair of the two (`Program.endedBy_iff`). Reindenting by nothing is rejoining the lines,
and has the same exception (`reindent_zero`).
-/

namespace SourceWriter

namespace Action

/-- The texts that an action writes as they are given. -/
def texts : Action → List Text
  | .write text | .writeLine text => [text]
  | .writeAll texts => texts
  | .writeIf condition text | .writeLineIf condition text => if condition then [text] else []
  | _ => []

end Action

/-- The texts that an event writes as they are given. -/
def Event.texts (event : Event) : List Text :=
  match event.moment with
  | .acted action => action.texts
  | _ => []

/-- The parts of a text are clean if its lines are. -/
theorem Text.EndsClean.parts {text part : Text} (clean : text.EndsClean)
    (member : part ∈ text.parts) : part.getLast? ≠ some '\r' := by
  unfold Text.parts at member
  split at member
  · obtain rfl := List.mem_singleton.mp member
    simp
  · exact clean part (List.mem_filter.mp member).1

/-- A text without carriage returns has none at the end of a line. -/
theorem Text.endsClean_of_not_mem {text : Text} (noFeed : '\n' ∉ text) (noReturn : '\r' ∉ text) :
    text.EndsClean := by
  intro line member last
  rw [Text.lines_of_not_mem noFeed, List.mem_singleton] at member
  subst member
  exact noReturn (List.mem_of_getLast? last)

/-- In a literal, what ends a line is the backslash in front of it. -/
theorem Writer.endsClean_literal (options : Options) (text : Text) :
    (literal options text).EndsClean := by
  have inLine : options.quote ≠ '\n' := by
    unfold Options.quote
    split <;> decide
  have visible : options.quote ≠ '\r' := by
    unfold Options.quote
    split <;> decide
  have quoted : literal options text =
      Text.escapeLineBreaks (options.quote :: text.escapeChar options.quote) ++
        [options.quote] := by
    rw [Text.escapeLineBreaks.eq_4]
    · rfl
    · intro after same
      exact absurd same visible
    · exact inLine
  intro line member
  rw [quoted] at member
  exact (Text.lines_escapeLineBreaks_concat inLine visible _ line member).2

namespace Writer

theorem eq_of_mem_separation {writer : Writer} {part : Text}
    (member : part ∈ writer.separation) : part = [' '] := by
  unfold separation at member
  split at member
  · contradiction
  · exact eq_of_mem_padding member

theorem eq_of_mem_commentEnd {writer : Writer} {part : Text}
    (member : part ∈ writer.commentEnd) : part = [' '] ∨ part = ['*', '/'] := by
  unfold commentEnd at member
  split at member
  · rcases List.mem_append.mp member with spaced | mark
    · split at spaced
      · contradiction
      · exact .inl (eq_of_mem_padding spaced)
    · exact .inr (List.mem_singleton.mp mark)
  · contradiction

end Writer

/-- What starts a scope ends in a space or a brace. -/
theorem Scope.eq_of_mem_openingParts {scope : Scope} {writer : Writer} {part : Text}
    (member : part ∈ scope.openingParts writer) : part = [' '] ∨ part = ['{'] := by
  cases scope with
  | block =>
      rcases List.mem_append.mp member with spaced | brace
      · exact .inl (Writer.eq_of_mem_separation spaced)
      · exact .inr (List.mem_singleton.mp brace)
  | inlineBlock => exact .inr (List.mem_singleton.mp member)
  | _ => contradiction

theorem Scope.eq_of_mem_closingParts {scope : Scope} {part : Text}
    (member : part ∈ scope.closingParts) : part = ['}'] := by
  cases scope with
  | block => exact List.mem_singleton.mp member
  | inlineBlock => exact List.mem_singleton.mp member
  | _ => contradiction

/-- An action that is given clean texts puts clean parts. -/
theorem Action.parts_clean {action : Action} (clean : ∀ text ∈ action.texts, text.EndsClean)
    {writer : Writer} {part : Text} (member : part ∈ action.parts writer) :
    part.getLast? ≠ some '\r' := by
  have blanks (times : Nat) {blank : Char} (inLine : blank ≠ '\n') (visible : blank ≠ '\r') :
      Text.EndsClean (List.replicate times blank) := by
    apply Text.endsClean_of_not_mem
    · intro feed
      exact inLine (List.eq_of_mem_replicate feed).symm
    · intro carriage
      exact visible (List.eq_of_mem_replicate carriage).symm
  cases action with
  | write text => exact (clean text List.mem_cons_self).parts member
  | writeLine text => exact (clean text List.mem_cons_self).parts member
  | writeAll texts =>
      obtain ⟨text, given, inside⟩ := List.mem_flatMap.mp member
      exact (clean text given).parts inside
  | writeIf condition text =>
      cases condition with
      | true => exact (clean text List.mem_cons_self).parts member
      | false => contradiction
  | writeLineIf condition text =>
      cases condition with
      | true => exact (clean text List.mem_cons_self).parts member
      | false => contradiction
  | quoteText text => exact (Writer.endsClean_literal writer.options text).parts member
  | quote =>
      obtain rfl := List.mem_singleton.mp member
      unfold Options.quote
      split <;> decide
  | indent times =>
      obtain ⟨unit, copies, inside⟩ := List.mem_flatMap.mp member
      obtain rfl := List.eq_of_mem_replicate copies
      have spaces : Text.EndsClean writer.options.unit := by
        unfold Options.unit
        split
        · decide
        · exact blanks _ (by decide) (by decide)
      exact spaces.parts inside
  | space times => exact (blanks times (by decide) (by decide)).parts member
  | tab times => exact (blanks times (by decide) (by decide)).parts member
  | spaceIfLastNot =>
      rw [Writer.eq_of_mem_padding member]
      decide
  | tabIfLastNot =>
      rw [Writer.eq_of_mem_padding member]
      decide
  | closeComment => rcases Writer.eq_of_mem_commentEnd member with rfl | rfl <;> decide
  | emptyBlock =>
      rcases List.mem_append.mp member with opening | closing
      · rcases Scope.eq_of_mem_openingParts opening with rfl | rfl <;> decide
      · rw [Scope.eq_of_mem_closingParts closing]
        decide
  | _ => contradiction

namespace Writer

/-- The text is ended by the configured terminator, and where that is a line feed alone, one could
follow. -/
structure Ended (writer : Writer) : Prop where
  endedBy : writer.text.EndedBy writer.options.terminator
  clean : writer.options.terminator = .lf → writer.text.getLast? ≠ some '\r'

namespace Ended

variable {writer after : Writer}

/-- A part of a line keeps the text ended by the terminator, if it does not end in a carriage return
that a line feed could follow. -/
theorem push (ended : writer.Ended) {part : Text} (noFeed : '\n' ∉ part)
    (clean : writer.options.terminator = .lf → part.getLast? ≠ some '\r') :
    (writer.push part).Ended := by
  refine ⟨?_, ?_⟩
  · rw [text_push]
    exact ended.endedBy.append noFeed
  · intro feeds
    rw [text_push, List.getLast?_append]
    cases last : part.getLast? with
    | none => exact ended.clean feeds
    | some character => simpa [last] using clean feeds

theorem put (ended : writer.Ended) {part : Text} (noFeed : '\n' ∉ part)
    (clean : writer.options.terminator = .lf → part.getLast? ≠ some '\r') :
    (writer.put part).Ended := by
  have started : writer.startLine.Ended := by
    unfold startLine
    split
    · apply ended.push (Options.not_mem_indentation _ _)
      intro _ last
      rcases Options.space_of_mem_indentation (List.mem_of_getLast? last) with same | same
      · contradiction
      · contradiction
    · exact ended
  have pushed := started.push noFeed fun feeds => clean (by rwa [options_startLine] at feeds)
  exact ⟨pushed.endedBy, pushed.clean⟩

theorem newLine (ended : writer.Ended) : writer.newLine.Ended := by
  refine ⟨?_, ?_⟩
  · rw [text_newLine]
    exact ended.endedBy.append_text ended.clean
  · intro feeds
    rw [text_newLine, show writer.options.terminator = .lf from feeds]
    simp [Terminator.text]

/-- Parts that are spelled out keep the text ended by the terminator, if none of them ends in a
carriage return that a line feed could follow. -/
theorem spells {parts : List Text} (ended : writer.Ended) (spelled : Spells parts writer after)
    (clean : writer.options.terminator = .lf → ∀ part ∈ parts, part.getLast? ≠ some '\r') :
    after.Ended := by
  induction spelled with
  | nothing => exact ended
  | newLine _ ih => exact (ih ended clean).newLine
  | put spelled _ noFeed ih =>
      have options := spelled.marks.strokes.options_eq
      refine (ih ended ?_).put noFeed ?_
      · intro feeds part member
        exact clean feeds part (List.mem_append_left _ member)
      · intro feeds
        rw [options] at feeds
        exact clean feeds _ List.mem_concat_self

theorem closeBrace (ended : writer.Ended) : writer.closeBrace.Ended := by
  have lowered : writer.leaveBlock.Ended := ⟨ended.endedBy, ended.clean⟩
  apply lowered.spells writer.spells_closeBrace
  simp

theorem enter (ended : writer.Ended) (scope : Scope) : (scope.enter writer).Ended := by
  rcases scope.enter_cases writer with ⟨started, spelled, entered⟩ | entered | entered
  · have opened : started.Ended := by
      apply ended.spells spelled
      intro _ part member
      rcases Scope.eq_of_mem_openingParts member with rfl | rfl <;> decide
    rw [entered]
    exact ⟨opened.endedBy, opened.clean⟩
  · rw [entered]
    exact ⟨ended.endedBy, ended.clean⟩
  · rwa [entered]

/-- Leaving a scope writes at most a brace, and an aside is dropped. -/
theorem leave {entry : Writer} (entered : entry.Ended) (ran : writer.Ended) (scope : Scope) :
    (scope.leave entry writer).Ended := by
  have closed := ran.closeBrace
  cases scope with
  | block => exact ⟨closed.endedBy, closed.clean⟩
  | inlineBlock => exact closed
  | indentBlock =>
      rcases Scope.leave_indentBlock_cases entry writer with ⟨left, _⟩ | ⟨left, _⟩
      · rw [left]
        exact ⟨ran.endedBy, ran.clean⟩
      · rw [left]
        exact ⟨ran.endedBy, ran.clean⟩
  | hanging => exact ⟨ran.endedBy, ran.clean⟩
  | aside => exact entered

/-- An action keeps the text ended by the terminator, if its texts end clean. -/
theorem act (ended : writer.Ended) {action : Action}
    (clean : writer.options.terminator = .lf → ∀ text ∈ action.texts, text.EndsClean) :
    (action.run writer).Ended := by
  rcases action.run_cases writer with spelled | rfl | ⟨level, queued, changed⟩
  · apply ended.spells spelled
    intro feeds part member
    exact Action.parts_clean (clean feeds) member
  · exact ended.leave (ended.enter .block) .block
  · rw [changed]
    exact ⟨ended.endedBy, ended.clean⟩

end Ended

/-- A run keeps to the terminator as long as it is given clean texts, or writes pairs. -/
theorem keeps_ended (start : Writer) : Keeps fun past writer =>
    Strokes start writer ∧
      ((start.options.terminator = .lf → ∀ event ∈ past, ∀ text ∈ event.texts, text.EndsClean) →
        writer.Ended) where
  act := by
    rintro past writer action ⟨reached, ended⟩
    refine ⟨reached.trans (action.strokes_run writer), ?_⟩
    intro clean
    have before := ended fun feeds event member => clean feeds event (List.mem_append_left _ member)
    apply before.act
    intro feeds
    rw [reached.options_eq] at feeds
    exact clean feeds _ List.mem_concat_self
  enter := by
    rintro past writer scope ⟨reached, ended⟩
    refine ⟨reached.trans (scope.strokes_enter writer), ?_⟩
    intro clean
    have before := ended fun feeds event member => clean feeds event (List.mem_append_left _ member)
    exact before.enter scope
  leave := by
    rintro past inside entry finished scope ⟨entryReached, entered⟩ ⟨reached, ran⟩
    refine ⟨scope.strokes_leave entryReached reached, ?_⟩
    intro clean
    have cleanBefore := fun feeds event member => clean feeds event (List.mem_append_left _ member)
    have entryEnded := entered fun feeds event member =>
      cleanBefore feeds event (List.mem_append_left _ member)
    exact entryEnded.leave (ran cleanBefore) scope

/-- Lines that get no indentation stay as they are. -/
theorem laidLines_nil (lines : List Text) : laidLines [] lines = lines := by
  apply List.ext_getElem
  · simp [laidLines]
  · intro index _ _
    simp [laidLines, reindentedLine]

/-- At level zero lines are written as they are, with other line ends. -/
theorem text_putText_zero (options : Options) (text : Text) :
    (putText { options } text).text = options.terminator.rejoin text := by
  have nothing : options.indentation 0 = [] := by
    rw [← Nat.cast_zero, Options.indentation_natCast]
    rfl
  by_cases empty : text = []
  · subst empty
    have started : (startLine { options }).text = [] := by
      unfold startLine
      split
      · rw [text_push, indentation, nothing]
        rfl
      · rfl
    calc (putText { options } []).text
        = (startLine { options }).text := congrArg text (append_nil _)
      _ = options.terminator.rejoin [] := by
          rw [started]
          rfl
  · rw [text_putText options 0 empty, nothing, laidLines_nil, Terminator.rejoin]

end Writer

/-- Reindenting by nothing is rejoining the lines. -/
theorem reindent_zero {options : Options} (valid : options.Valid) (text : Text) :
    reindent text options (.level 0) = .ok (options.terminator.rejoin text) := by
  rw [reindent, Writer.new_eq_ok_iff.mpr ⟨valid, rfl⟩, ← Writer.text_putText_zero]
  rfl

/-- **Line ends are the configured ones.** Where pairs are written, every line feed of the text is
that of a pair at every point of every run, and reindenting by nothing a second time changes
nothing. Where line feeds alone are written, the same holds exactly as far as no line ends in a
carriage return: for all programs that write such texts, and for reindenting a text without two
carriage returns before a line feed. -/
theorem Program.endedBy_iff {options : Options} {fresh : Writer}
    (created : Writer.new options = .ok fresh) :
    (∀ allowed : Text → Prop,
      (∀ (program : Program) (history : List Event), history <+: program.trace fresh →
        (∀ event ∈ history, ∀ text ∈ event.texts, allowed text) →
        (fresh.atEnd history).text.EndedBy options.terminator) ↔
      options.terminator = .crlf ∨ ∀ text, allowed text → text.EndsClean) ∧
    ∀ text, ∃ once, reindent text options (.level 0) = .ok once ∧
      (reindent once options (.level 0) = .ok once ↔
        options.terminator = .crlf ∨ ¬ ['\r', '\r', '\n'] <:+: text) := by
  obtain ⟨valid, rfl⟩ := Writer.new_eq_ok_iff.mp created
  refine ⟨?_, ?_⟩
  · intro allowed
    constructor
    · intro ended
      cases terminator : options.terminator with
      | crlf => exact .inl rfl
      | lf =>
          refine .inr ?_
          intro text given
          -- A line break behind the text ends its last line too.
          let program : Program := .act (.write text) (.act .newLine .done)
          have lineFeeds := ended program _ (List.prefix_refl _)
            (by simp [program, trace, Event.texts, Action.texts, given])
          have sameOptions : (Writer.putText { options } text).options = options :=
            (Writer.marks_write { options } text).strokes.options_eq
          have written : (program.run { options }).text = Terminator.lf.rejoin text ++ ['\n'] := by
            calc (program.run { options }).text
                = (Writer.putText { options } text).newLine.text := rfl
              _ = Terminator.lf.rejoin text ++ ['\n'] := by
                  rw [Writer.text_newLine, Writer.text_putText_zero, sameOptions, terminator]
                  rfl
          rw [atEnd_trace, written, terminator] at lineFeeds
          exact Terminator.endsClean_of_endedBy lineFeeds
    · intro clean program history passed given
      have start : Writer.Ended { options } := by
        refine ⟨Text.endedBy_nil _, ?_⟩
        intro _ last
        cases last
      have kept := (Writer.keeps_ended { options }).atEnd_of_start ⟨.refl, fun _ => start⟩ passed
      have ended := (kept.2 ?_).endedBy
      · rwa [kept.1.options_eq] at ended
      · intro feeds event member text written
        have single : options.terminator = .lf := feeds
        have allowedClean := clean.resolve_left (by simp [single])
        exact allowedClean text (given event member text written)
  · intro text
    refine ⟨_, reindent_zero valid text, ?_⟩
    rw [reindent_zero valid, Except.ok.injEq]
    exact options.terminator.rejoin_rejoin_iff text

/-- Line feeds alone, for a text with a carriage return inside of a line, and for one that is quoted
with carriage returns before and after its line end. -/
theorem Program.endedBy_of_clean :
    let options : Options := {}
    let clean : Text := ['a', '\r', 'b', '\r', '\n']
    let quoted : Action := .quoteText ['\r', '\r', '\n', '\r']
    let program : Program := .within .block (.act (.write clean) (.act quoted .done)) .done
    Writer.new options = .ok { options } ∧
      (∀ event ∈ program.trace { options }, ∀ text ∈ event.texts, text = clean) ∧
      (program.run { options }).text =
        "\x7b\n    a\rb\n    \"\r\\\n\r\"\n\x7d".toList ∧
      (program.run { options }).text.EndedBy .lf ∧
      ∃ once, reindent ['\r', '\r', 'a', '\r', '\n'] options (.level 0) = .ok once ∧
        reindent once options (.level 0) = .ok once := by
  intro options clean quoted program
  have created : Writer.new options = .ok { options } := rfl
  have given : ∀ event ∈ program.trace { options }, ∀ text ∈ event.texts, text = clean := by
    decide +kernel
  obtain ⟨ends, again⟩ := endedBy_iff created
  have ended := (ends (· = clean)).mpr (.inr (by rintro _ rfl; decide)) program _
    (List.prefix_refl _) given
  rw [atEnd_trace] at ended
  obtain ⟨once, indented, same⟩ := again ['\r', '\r', 'a', '\r', '\n']
  exact ⟨created, given, by decide +kernel, ended, once, indented, same.mpr (.inr (by decide))⟩

/-- The first of two carriage returns is content, and makes a pair with the line feed that is
written for the second one and its own. Reindenting the result takes the pair for one. -/
theorem Program.not_forall_endedBy :
    (¬ ∀ writer : Writer, writer.Reachable → writer.text.EndedBy writer.options.terminator) ∧
    reindent ['a', '\r', '\r', '\n', 'b'] {} (.level 0) = .ok ['a', '\r', '\n', 'b'] ∧
      reindent ['a', '\r', '\n', 'b'] {} (.level 0) = .ok ['a', '\n', 'b'] := by
  refine ⟨?_, by decide +kernel, by decide +kernel⟩
  intro always
  let program : Program := .act (.write ['a', '\r', '\r', '\n', 'b']) .done
  have created : Writer.new {} = .ok { options := {} } := rfl
  have reachable := Writer.Reachable.atEnd created (List.prefix_refl (program.trace _))
  have pair := (always _ reachable ['a', '\r'] ['b'] (by decide +kernel)).mp rfl
  contradiction

end SourceWriter
