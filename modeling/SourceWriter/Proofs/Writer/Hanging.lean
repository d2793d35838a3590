import SourceWriter.Proofs.Lexical.Modes
import SourceWriter.Proofs.Lexical.Strings
import SourceWriter.Proofs.LineByLine
import SourceWriter.Proofs.Writer.Chunk
import SourceWriter.Proofs.Writer.Levels

/-! # Hanging indentation

The lines of a text after its first one are put at the level that is in force after the first line
break (`Writer.text_write_of_settled`). Hanging indentation queues a level for that line break and
puts back both levels afterwards. The level it queues is one more than the whole levels of the
current one, so that the lines hang one level deeper only where the current level is written as a
whole one (`Writer.hanging_iff`). Entered again before the line break, it queues the same level once
more and saves what it will find again: nesting adds nothing (`Writer.run_nestedHanging`).
-/

namespace SourceWriter

open Lexical

/-- A part of one line that is not empty. -/
structure Text.LinePart (text : Text) : Prop where
  nonempty : text ≠ []
  noReturn : '\r' ∉ text
  noFeed : '\n' ∉ text

instance (text : Text) : Decidable text.LinePart :=
  decidable_of_iff (text ≠ [] ∧ '\r' ∉ text ∧ '\n' ∉ text)
    ⟨fun ⟨nonempty, noReturn, noFeed⟩ => ⟨nonempty, noReturn, noFeed⟩,
      fun part => ⟨part.nonempty, part.noReturn, part.noFeed⟩⟩

/-- What more lines put behind a text that ends in this state: each line after a line break, and
indented unless it is empty or starts in a string literal. -/
def continuation (terminator : Terminator) (indentation : Text) (state : State) :
    List Text → Text
  | [] => []
  | line :: rest =>
    terminator.text ++ (if line.isEmpty || state.inString then line else indentation ++ line) ++
      continuation terminator indentation (state.endLine.feed terminator.text line) rest

namespace Program

/-- A program with hanging indentation. -/
def hanging (body : Program) : Program :=
  .within .hanging body .done

/-- A text written behind pieces, each of which starts hanging indentation for all that follows. -/
def nestedHanging (text : Text) : List Text → Program
  | [] => .act (.write text) .done
  | piece :: rest => hanging (.act (.write piece) (nestedHanging text rest))

end Program

/-- In a string literal, its quote leads back to the code around it. -/
theorem Lexical.State.Sound.exists_update_closing {state : State} (sound : state.Sound)
    (inside : state.inString = true) :
    ∃ quote : Quote, ∀ behind, (state.endLine.update behind quote.char).inString = false := by
  have uncommented : state.comment = none := by
    cases comment : state.comment with
    | none => rfl
    | some kind =>
        have outside := sound.comment (by simp [State.inComment, comment])
        rw [inside] at outside
        contradiction
  cases contexts : state.contexts with
  | nil => simp [State.inString, contexts] at inside
  | cons innermost outer =>
      have alternate := contexts ▸ sound.alternate
      cases alternate with
      | code code =>
          cases code
          simp [State.inString, contexts] at inside
      | literal quote around =>
          have ended : state.endLine = State.within (.literal quote :: outer) false false := by
            simp [State.endLine, State.within, contexts, uncommented]
          refine ⟨quote, ?_⟩
          intro behind
          rw [ended, State.update_closing]
          cases around <;> rfl

namespace Writer

variable {writer : Writer}

/-! ### The lines after the first one -/

/-- The writer after the first line of a text. The empty text starts a line too. -/
def putStart (writer : Writer) (text : Text) : Writer :=
  if text.isEmpty then writer.put [] else writer.putLine (text.lines.headD [])

/-- The text once the first line of another one has been put and its other lines follow at this
level. -/
def continued (writer : Writer) (level : Rat) (text : Text) : Text :=
  let start := writer.putStart text
  start.text ++ continuation writer.options.terminator (writer.options.indentation level)
    start.lexical text.lines.tail

theorem putText_eq_putLines (writer : Writer) (text : Text) :
    writer.putText text = (writer.putStart text).putLines text.lines.tail := by
  by_cases empty : text = []
  · subst empty
    rfl
  · rw [putText_eq_putJoined empty, putStart, if_neg (by simpa using empty)]
    cases lines : text.lines with
    | nil => exact absurd lines (Text.lines_ne_nil text)
    | cons first rest => rfl

theorem putStart_frame (writer : Writer) (text : Text) :
    (writer.putStart text).options = writer.options ∧
      (writer.putStart text).level = writer.level ∧
      (writer.putStart text).queued = writer.queued := by
  unfold putStart
  split
  · obtain ⟨options, level, queued, _⟩ := put_frame writer []
    exact ⟨options, level, queued⟩
  · exact Laid.putLine_frame writer _

/-- Lines that follow are all put at the level that is in force after the first line break. -/
theorem text_putLines (writer : Writer) (lines : List Text) :
    (writer.putLines lines).text = writer.text ++
      continuation writer.options.terminator
        (writer.options.indentation (writer.queued.getD writer.level)) writer.lexical lines := by
  induction lines generalizing writer with
  | nil => exact (List.append_nil _).symm
  | cons line rest ih =>
      have start := atLineStart_breakLine writer
      have blank : (LookBehind.ofText writer.options.terminator.text).Blank :=
        writer.options.terminator.blank_append_text []
      obtain ⟨options, level, queued⟩ := Laid.putLine_frame writer.breakLine line
      have lexical : (writer.breakLine.putLine line).lexical =
          writer.lexical.endLine.feed writer.options.terminator.text line :=
        lexical_putLine start writer.lexical.atRest_endLine blank line
      calc
        (writer.putLines (line :: rest)).text
          = ((writer.breakLine.putLine line).putLines rest).text := rfl
        _ = _ := by
          rw [ih, options, level, queued, lexical, text_putLine start, text_breakLine]
          simp only [continuation, List.append_assoc]
          rfl

theorem text_write_of_settled (settled : writer.owesLine = false) (text : Text) :
    (writer.write text).text = writer.continued (writer.queued.getD writer.level) text := by
  obtain ⟨options, level, queued⟩ := writer.putStart_frame text
  rw [write, settle_of_settled settled, putText_eq_putLines, text_putLines, options, level, queued,
    continued]

/-- What is queued does not matter until a line ends. -/
theorem put_queued (writer : Writer) (queued : Option Rat) (part : Text) :
    put { writer with queued } part = { writer.put part with queued } := by
  let other : Writer := { writer with queued }
  by_cases start : (writer.atLineStart && !writer.inString) = true
  · have otherStart : (other.atLineStart && !other.inString) = true := start
    rw [put, startLine, if_pos otherStart, put, startLine, if_pos start]
    rfl
  · have otherStart : ¬ (other.atLineStart && !other.inString) = true := start
    rw [put, startLine, if_neg otherStart, put, startLine, if_neg start]
    rfl

/-- The first line is put without regard to a level that is queued. -/
theorem putStart_queued (writer : Writer) (queued : Option Rat) (text : Text) :
    putStart { writer with queued } text = { writer.putStart text with queued } := by
  unfold putStart putLine
  split
  · exact writer.put_queued queued []
  · split
    · rfl
    · exact writer.put_queued queued _

theorem continued_queued (writer : Writer) (queued : Option Rat) (level : Rat) (text : Text) :
    continued { writer with queued } level text = writer.continued level text := by
  rw [continued, putStart_queued]
  rfl

/-! ### Hanging lines -/

/-- With hanging indentation, the lines after the first one are a level deeper than the whole part
of the level. -/
theorem text_hanging (settled : writer.owesLine = false) (text : Text) :
    ((Program.hanging (.act (.write text) .done)).run writer).text =
      writer.continued (writer.wholeLevel + 1) text := by
  have settledStill : (Scope.hanging.enter writer).owesLine = false := settled
  calc
    ((Program.hanging (.act (.write text) .done)).run writer).text
      = ((Scope.hanging.enter writer).write text).text := rfl
    _ = writer.continued (writer.wholeLevel + 1) text := by
      rw [text_write_of_settled settledStill]
      exact writer.continued_queued _ _ text

/-- Wherever a sound writer is, there is a text for it that ends in an indented line. -/
theorem exists_continued (sound : writer.lexical.Sound) :
    ∃ before text, ∀ level, writer.continued level text =
      before ++ writer.options.indentation level ++ ['x'] := by
  by_cases inside : writer.inString = true
  · -- A line of its own for the quote closes the literal first.
    obtain ⟨quote, closed⟩ := sound.exists_update_closing inside
    let mark := writer.options.terminator.text
    refine ⟨writer.text ++ mark ++ quote.char :: mark, ['\n', quote.char, '\n', 'x'], ?_⟩
    intro level
    have lines : Text.lines ['\n', quote.char, '\n', 'x'] = [[], [quote.char], ['x']] := by
      cases quote <;> rfl
    have literal : writer.lexical.inString = true := inside
    simp [continued, putStart, lines, putLine, continuation, literal, State.feed_cons, closed, mark]
  · refine ⟨writer.text ++ writer.options.terminator.text, ['\n', 'x'], ?_⟩
    intro level
    have code : writer.lexical.inString = false := Bool.eq_false_iff.mpr inside
    simp [continued, putStart, Text.lines, Text.pushFirst, putLine, continuation, code]

/-- **Hanging indentation.** The text is written as without it up to the first line break, and its
other lines are put one level above the whole levels of the current one; both levels are put back.
That is one level above the current one for all texts exactly if the current level is whole, or with
tabs, if it is at most half a level above a whole one. -/
theorem hanging_iff (reachable : writer.Reachable) (settled : writer.owesLine = false) :
    (∀ text : Text,
      let hung := (Program.hanging (.act (.write text) .done)).run writer
      (writer.write text).text = writer.continued (writer.queued.getD writer.level) text ∧
        hung.text = writer.continued (writer.wholeLevel + 1) text ∧
        hung.level = writer.level ∧ hung.queued = writer.queued) ∧
    writer.options.indentation (writer.level + 1) = writer.options.unit ++ writer.indentation ∧
    ((∀ text : Text, ((Program.hanging (.act (.write text) .done)).run writer).text =
        writer.continued (writer.level + 1) text) ↔
      if writer.options.tabs then writer.level ≤ writer.wholeLevel + 1 / 2
      else writer.level = writer.wholeLevel) := by
  have inSpaces := reachable.levelsInSpaces
  have deeper := writer.options.indentation_add_one inSpaces.level.nonneg
  have deeperWhole := writer.options.indentation_add_one (Nat.cast_nonneg writer.wholeLevel)
  refine ⟨?_, deeper, ?_⟩
  · intro text
    exact ⟨text_write_of_settled settled text, text_hanging settled text, rfl, rfl⟩
  · simp only [text_hanging settled]
    refine Iff.trans ?_ (Options.indentation_floor_iff inSpaces.valid inSpaces.level)
    constructor
    · intro same
      obtain ⟨before, text, shown⟩ := writer.exists_continued reachable.sound
      have written := same text
      rw [shown, shown, List.append_cancel_right_eq, List.append_cancel_left_eq, deeperWhole,
        deeper, List.append_cancel_left_eq] at written
      exact written
    · intro same text
      have written : writer.options.indentation (writer.wholeLevel + 1) =
          writer.options.indentation (writer.level + 1) := by
        rw [deeperWhole, deeper]
        exact congrArg _ same
      rw [continued, continued, written]

/-- Tabs at half a level above a whole one, with a level queued, in a template literal that the text
closes. -/
theorem hanging_iff_in_template :
    let options : Options := { tabs := true }
    let program : Program :=
      .act (.setLevel (.text ['\t', ' ', ' '])) (.act (.queueLevel (.level 5))
        (.act (.write ['`']) .done))
    let writer := program.run { options }
    let text : Text := "b\nc`d\n\ne".toList
    let hung := (Program.hanging (.act (.write text) .done)).run writer
    writer.Reachable ∧ writer.owesLine = false ∧ writer.level = 3 / 2 ∧ writer.queued = some 5 ∧
      writer.continued (5 / 2) text = "\t`b\nc`d\n\n\t\te".toList ∧
      hung.text = writer.continued (5 / 2) text ∧
      (writer.write text).text = writer.continued 5 text ∧
      hung.level = 3 / 2 ∧ hung.queued = some 5 := by
  intro options program writer text hung
  have created : Writer.new options = .ok { options } := rfl
  have reachable : writer.Reachable := .run created program
  have settled : writer.owesLine = false := by decide +kernel
  have level : writer.level = 3 / 2 := by decide +kernel
  have queued : writer.queued = some 5 := by decide +kernel
  have continued : writer.continued (5 / 2) text = "\t`b\nc`d\n\n\t\te".toList := by
    decide +kernel
  have half : if writer.options.tabs then writer.level ≤ writer.wholeLevel + 1 / 2
      else writer.level = writer.wholeLevel := by
    decide +kernel
  obtain ⟨written, _, always⟩ := hanging_iff reachable settled
  obtain ⟨plain, _, levelKept, queuedKept⟩ := written text
  have next : writer.level + 1 = 5 / 2 := by decide +kernel
  have shown := always.mpr half text
  rw [next] at shown
  rw [queued] at plain queuedKept
  exact ⟨reachable, settled, level, queued, continued, shown, plain, levelKept.trans level,
    queuedKept⟩

/-- Half a level above the margin, a line hangs at one level, not at one and a half. -/
theorem not_forall_hanging :
    (¬ ∀ writer : Writer, writer.Reachable → writer.owesLine = false → ∀ text : Text,
      ((Program.hanging (.act (.write text) .done)).run writer).text =
        writer.continued (writer.level + 1) text) ∧
    let writer := (Action.setLevel (.text [' ', ' '])).run { options := {} }
    ((Program.hanging (.act (.write ['\n', 'a']) .done)).run writer).text = "\n    a".toList ∧
      writer.continued (writer.level + 1) ['\n', 'a'] = "\n      a".toList := by
  refine ⟨?_, by decide +kernel, by decide +kernel⟩
  intro always
  let program : Program := .act (.setLevel (.text [' ', ' '])) .done
  have created : Writer.new {} = .ok { options := {} } := rfl
  have hung := always _ (.run created program) rfl ['\n', 'a']
  revert hung
  decide +kernel

/-! ### Nesting -/

/-- A writer with the level queued that hanging indentation would queue, and no line break owed
before it. -/
structure Hanging (writer : Writer) : Prop where
  settled : writer.owesLine = false
  queued_eq : writer.queued = some (writer.wholeLevel + 1 : Rat)

theorem hanging_enter (settled : writer.owesLine = false) :
    (Scope.hanging.enter writer).Hanging :=
  ⟨settled, rfl⟩

namespace Hanging

/-- Hanging indentation has nothing to add. -/
theorem enter_eq (hanging : writer.Hanging) : Scope.hanging.enter writer = writer := by
  rw [Scope.enter, ← hanging.queued_eq]

/-- But for the levels, it leaves what its body leaves. -/
theorem run_hanging (hanging : writer.Hanging) (body : Program) (level : Rat)
    (queued : Option Rat) :
    { (Program.hanging body).run writer with level, queued } =
      { body.run writer with level, queued } := by
  calc
    { (Program.hanging body).run writer with level, queued }
      = { body.run (Scope.hanging.enter writer) with level, queued } := rfl
    _ = { body.run writer with level, queued } := by rw [hanging.enter_eq]

/-- What is written without a line break leaves the queued level for the next one. -/
theorem write (hanging : writer.Hanging) {piece : Text} (noFeed : '\n' ∉ piece) :
    (writer.write piece).Hanging := by
  have written : writer.write piece = writer.put piece := by
    rw [Writer.write, settle_of_settled hanging.settled, putText_of_not_mem noFeed]
  obtain ⟨_, level, queued, owes⟩ := put_frame writer piece
  rw [written]
  refine ⟨owes.trans hanging.settled, ?_⟩
  rw [queued, hanging.queued_eq, wholeLevel, wholeLevel, level]

end Hanging

/-- Once one is in force, more hanging indentation writes what there is to write and nothing else.
The levels that are saved on the way are forgotten outside. -/
theorem Hanging.run_nested (hanging : writer.Hanging) {text : Text} (filled : text ≠ [])
    {pieces : List Text} (parts : ∀ piece ∈ pieces, piece.LinePart) (level : Rat)
    (queued : Option Rat) :
    { (Program.nestedHanging text pieces).run writer with level, queued } =
      { writer.write (pieces.flatten ++ text) with level, queued } := by
  induction pieces generalizing writer with
  | nil => rfl
  | cons piece rest ih =>
      have part := parts piece List.mem_cons_self
      have partsLeft : ∀ other ∈ rest, other.LinePart := by
        intro other member
        exact parts other (List.mem_cons_of_mem _ member)
      have uncut : piece.Uncut (rest.flatten ++ text) := by
        intro last
        exact absurd (List.mem_of_getLast? last) part.noReturn
      have more : rest.flatten ++ text ≠ [] := List.append_ne_nil_of_right_ne_nil _ filled
      calc
        { (Program.nestedHanging text (piece :: rest)).run writer with level, queued }
          = { (Program.nestedHanging text rest).run (writer.write piece) with level, queued } :=
            hanging.run_hanging _ level queued
        _ = { (writer.write piece).write (rest.flatten ++ text) with level, queued } :=
            ih (hanging.write part.noFeed) partsLeft
        _ = { writer.write ((piece :: rest).flatten ++ text) with level, queued } := by
            rw [write_write part.nonempty more uncut, List.flatten_cons, List.append_assoc]

/-- **Nesting adds nothing.** Pieces of a line that each start hanging indentation for all that
follows leave the writer as they do together, with one hanging indentation for all of them. Both
levels are what they were before. -/
theorem run_nestedHanging (settled : writer.owesLine = false) {pieces : List Text}
    (nonempty : pieces ≠ []) (parts : ∀ piece ∈ pieces, piece.LinePart) {text : Text}
    (filled : text ≠ []) :
    let nested := (Program.nestedHanging text pieces).run writer
    nested = (Program.hanging (.act (.write (pieces.flatten ++ text)) .done)).run writer ∧
      nested.level = writer.level ∧ nested.queued = writer.queued := by
  intro nested
  have same : nested =
      (Program.hanging (.act (.write (pieces.flatten ++ text)) .done)).run writer := by
    have entered := hanging_enter settled
    obtain ⟨first, rest, rfl⟩ := List.exists_cons_of_ne_nil nonempty
    calc
      nested = { (Program.nestedHanging text (first :: rest)).run (Scope.hanging.enter writer) with
          level := writer.level, queued := writer.queued } := rfl
      _ = { (Scope.hanging.enter writer).write ((first :: rest).flatten ++ text) with
          level := writer.level, queued := writer.queued } :=
        entered.run_nested filled parts writer.level writer.queued
      _ = (Program.hanging (.act (.write ((first :: rest).flatten ++ text)) .done)).run writer :=
        rfl
  rw [same]
  exact ⟨rfl, rfl, rfl⟩

/-- Three calls that are nested, at a level between two whole ones and with another one queued. The
second piece opens a template literal, which the text closes after the line break. -/
theorem run_nestedHanging_in_template :
    let options : Options := { terminator := .crlf, width := 2 }
    let program : Program :=
      .act (.setLevel (.text [' '])) (.act (.queueLevel (.level 4)) (.act (.write ['a']) .done))
    let writer := program.run { options }
    let pieces : List Text := ["(".toList, "`x".toList, "y".toList]
    let text : Text := "\nz`,\nb".toList
    let nested := (Program.nestedHanging text pieces).run writer
    writer.Reachable ∧ writer.owesLine = false ∧ pieces ≠ [] ∧
      (∀ piece ∈ pieces, piece.LinePart) ∧ text ≠ [] ∧
      nested.text = " a(`xy\r\nz`,\r\n  b".toList ∧
      nested = (Program.hanging (.act (.write ("(`xy".toList ++ text)) .done)).run writer ∧
      nested.level = 1 / 2 ∧ nested.queued = some 4 := by
  intro options program writer pieces text nested
  have created : Writer.new options = .ok { options } := rfl
  have reachable : writer.Reachable := .run created program
  have settled : writer.owesLine = false := by decide +kernel
  have nonempty : pieces ≠ [] := by decide
  have parts : ∀ piece ∈ pieces, piece.LinePart := by decide +kernel
  have filled : text ≠ [] := by decide
  have written : nested.text = " a(`xy\r\nz`,\r\n  b".toList := by decide +kernel
  have level : writer.level = 1 / 2 := by decide +kernel
  have queued : writer.queued = some 4 := by decide +kernel
  obtain ⟨same, levelKept, queuedKept⟩ := run_nestedHanging settled nonempty parts filled
  exact ⟨reachable, settled, nonempty, parts, filled, written, same, levelKept.trans level,
    queuedKept.trans queued⟩

-- A line break that is owed puts the queued level in force before the next call.
example :
    let writer : Writer := { options := {}, written := ['x'], owesLine := true }
    let text : Text := ['\n', 'c']
    ((Program.nestedHanging text [['a'], ['b']]).run writer).text = "x\n    ab\n        c".toList ∧
      ((Program.nestedHanging text [['a', 'b']]).run writer).text = "x\n    ab\n    c".toList := by
  decide +kernel

end Writer

end SourceWriter
