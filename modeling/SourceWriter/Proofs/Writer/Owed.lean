import SourceWriter.Proofs.Writer.Stroke

/-! # Line breaks that are owed

After a block, and after an indent block that ends in the middle of a line, a line break is owed:
what is written next starts a line. Where something has been written, settling ends a line that has
something on it, so that no empty line comes of it (`Writer.owesFilled_iff`). The end of an indent
block only asks whether the text ends in a line feed, which the empty text does not. So a line break
is owed for nothing if an indent block is left while nothing has been written, and in no other way
(`Program.owesFilled_iff_of_trace`).
-/

namespace SourceWriter

namespace Writer

/-- The line break that is owed ends a line with something on it. -/
structure OwesFilled (writer : Writer) : Prop where
  written : writer.text ≠ []
  unended : writer.endsLine = false
  /-- Settling leaves the lines as they are, and starts one after the last of them. -/
  settles : ∃ lines line, line ≠ [] ∧
    writer.options.terminator.cut writer.text = lines ++ [line] ∧
    writer.options.terminator.cut writer.settle.text = lines ++ [line, []]

variable {writer : Writer}

theorem endsLine_of_text {before : Text} {terminator : Terminator}
    (text : writer.text = before ++ terminator.text) : writer.endsLine = true := by
  rw [endsLine, lastChar_eq_getLast?, text]
  cases terminator <;> simp [Terminator.text]

theorem text_ne_nil_of_endsLine (ended : writer.endsLine = true) : writer.text ≠ [] := by
  intro empty
  rw [endsLine, lastChar_eq_getLast?, empty] at ended
  contradiction

/-- The last line of a text that ends in no line feed is not empty, unless the text is. -/
theorem exists_last_line (written : writer.text ≠ []) (unended : writer.endsLine = false) :
    ∃ lines line, line ≠ [] ∧ writer.options.terminator.cut writer.text = lines ++ [line] := by
  have joined := writer.options.terminator.intercalate_cut writer.text
  have nonempty := writer.options.terminator.cut_ne_nil writer.text
  obtain ⟨lines, line, cut⟩ : ∃ lines line,
      writer.options.terminator.cut writer.text = lines ++ [line] :=
    ⟨_, _, (List.dropLast_concat_getLast nonempty).symm⟩
  refine ⟨lines, line, ?_, cut⟩
  -- An empty last piece is what stands behind a terminator at the end.
  rintro rfl
  rw [cut] at joined
  by_cases only : lines = []
  · subst only
    exact written joined.symm
  · rw [Text.intercalate_concat only, List.append_nil] at joined
    rw [endsLine_of_text joined.symm] at unended
    contradiction

/-- Nothing but an empty text makes a line break that is owed end an empty line. -/
theorem owesFilled_iff (owes : writer.owesLine = true) (unended : writer.endsLine = false) :
    writer.OwesFilled ↔ writer.text ≠ [] := by
  constructor
  · intro filled
    exact filled.written
  · intro written
    obtain ⟨lines, line, nonempty, cut⟩ := exists_last_line written unended
    refine ⟨written, unended, lines, line, nonempty, cut, ?_⟩
    rw [text_settle_of_owes owes, Terminator.cut_append_text, cut, List.append_assoc]
    rfl

theorem text_closeBrace_ne_nil (writer : Writer) : writer.closeBrace.text ≠ [] := by
  have closed : writer.closeBrace.text = writer.leaveBlock.newLineIfLastNot.settle.startLine.text ++
      ['}'] := text_append _ _
  rw [closed]
  exact List.append_ne_nil_of_right_ne_nil _ (List.cons_ne_nil _ _)

/-- What is known of a line break that is owed, from the events that led to it. -/
structure Owed (past : List Event) (writer : Writer) : Prop where
  unended : writer.owesLine = true → writer.endsLine = false
  origin : writer.owesLine = true → writer.text = [] →
    ∃ event ∈ past, event.moment = .left .indentBlock ∧ event.after.text = []

namespace Owed

variable {past : List Event}

theorem later (owed : Owed past writer) (events : List Event) : Owed (past ++ events) writer := by
  refine ⟨owed.unended, ?_⟩
  intro owes empty
  obtain ⟨event, member, found⟩ := owed.origin owes empty
  exact ⟨event, List.mem_append_left events member, found⟩

/-- Marks settle what is owed. -/
theorem marks (owed : Owed past writer) {after : Writer} (marks : Marks writer after) :
    Owed past after := by
  rcases marks.eq_or_settled with rfl | settled
  · exact owed
  · refine ⟨?_, ?_⟩ <;> simp [settled]

/-- Arranging levels neither owes a line break nor writes anything. -/
theorem arrange (owed : Owed past writer) (level : Rat) (queued : Option Rat)
    (onFirstLine : Bool) : Owed past { writer with level, queued, onFirstLine } :=
  ⟨owed.unended, owed.origin⟩

/-- A brace is something to end the line of. -/
theorem closeBrace (past : List Event) (writer : Writer) :
    Owed past { writer.closeBrace with owesLine := true } := by
  refine ⟨fun _ => writer.endsLine_closeBrace, ?_⟩
  intro _ empty
  exact absurd empty writer.text_closeBrace_ne_nil

/-- Every action keeps what is known of a line break that is owed. -/
theorem act (owed : Owed past writer) (action : Action) : Owed past (action.run writer) := by
  rcases action.run_cases writer with spelled | rfl | ⟨level, queued, changed⟩
  · exact owed.marks spelled.marks
  · exact closeBrace past (Scope.block.enter writer)
  · rw [changed]
    exact owed.arrange level queued writer.onFirstLine

/-- Entering a scope keeps what is known of a line break that is owed. -/
theorem enter (owed : Owed past writer) (scope : Scope) : Owed past (scope.enter writer) := by
  rcases scope.enter_cases writer with ⟨started, spelled, entered⟩ | entered | entered
  · rw [entered]
    exact (owed.marks spelled.marks).arrange (started.level + 1) started.queued true
  · rw [entered]
    exact owed.arrange writer.level _ writer.onFirstLine
  · rwa [entered]

/-- Only the end of an indent block owes a line break where the text may be empty. -/
theorem leave {finished : Writer} (ran : Owed past finished) {scope : Scope}
    (notAside : scope ≠ .aside) (entry : Writer) :
    Owed (past ++ [⟨.left scope, finished, scope.leave entry finished⟩])
      (scope.leave entry finished) := by
  have lowered : Owed past finished.leaveBlock := ran.arrange _ finished.queued false
  cases scope with
  | block => exact closeBrace _ finished
  | inlineBlock => exact (lowered.marks finished.marks_closeBrace).later _
  | indentBlock =>
      rcases Scope.leave_indentBlock_cases entry finished with ⟨left, _⟩ | ⟨left, unended⟩
      · rw [left]
        exact lowered.later _
      · rw [left]
        refine ⟨fun _ => unended, ?_⟩
        -- Where the text is empty, it is this very event that the debt comes from.
        intro _ empty
        exact ⟨_, List.mem_concat_self, rfl, empty⟩
  | hanging => exact (ran.arrange entry.level entry.queued finished.onFirstLine).later _
  | aside => contradiction

end Owed

/-- What is known of a line break that is owed is kept all through a program. -/
theorem keeps_owed : Keeps Owed where
  act _ _ action owed := (owed.act action).later _
  enter _ _ scope owed := (owed.enter scope).later _
  leave := by
    intro past inside entry finished scope entered ran
    by_cases aside : scope = .aside
    · subst aside
      exact (entered.later inside).later _
    · exact ran.leave aside entry

/-- Whatever program has come by a writer, it owes no line break where its text ends in one. -/
theorem Reachable.unended (reachable : writer.Reachable) (owes : writer.owesLine = true) :
    writer.endsLine = false := by
  obtain @⟨options, _, created, program, history, passed⟩ := reachable
  obtain ⟨_, rfl⟩ := Writer.new_eq_ok_iff.mp created
  have start : Owed [] { options } := ⟨nofun, nofun⟩
  exact (keeps_owed.atEnd_of_start start passed).unended owes

end Writer

namespace Program

/-- An end of a scope is what leaving it from some start has come to. -/
theorem exists_leave_of_mem {program : Program} {writer : Writer} {event : Event} {scope : Scope}
    (member : event ∈ program.trace writer) (left : event.moment = .left scope) :
    ∃ entry, event.after = scope.leave entry event.before := by
  rcases mem_trace_cases member with ⟨action, before, rfl⟩ | ⟨other, before, rfl⟩ |
    ⟨other, entry, finished, rfl⟩
  · contradiction
  · contradiction
  · obtain rfl : other = scope := Moment.left.inj left
    exact ⟨entry, rfl⟩

/-- **Line breaks that are owed for nothing.** No line break is ever owed where the text ends in a
line feed. Wherever in a run one is owed it ends a line with something on it, exactly if no indent
block is left in that run while nothing has been written. -/
theorem owesFilled_iff_of_trace {options : Options} {fresh : Writer}
    (created : Writer.new options = .ok fresh) (program : Program) :
    (∀ history, history <+: program.trace fresh → (fresh.atEnd history).owesLine = true →
      (fresh.atEnd history).endsLine = false) ∧
    ((∀ history, history <+: program.trace fresh → (fresh.atEnd history).owesLine = true →
        (fresh.atEnd history).OwesFilled) ↔
      ∀ event ∈ program.trace fresh,
        event.moment = .left .indentBlock → event.after.text ≠ []) := by
  obtain ⟨_, rfl⟩ := Writer.new_eq_ok_iff.mp created
  have start : Writer.Owed [] { options } := ⟨nofun, nofun⟩
  have owed : ∀ history, history <+: program.trace { options } →
      Writer.Owed history (Writer.atEnd { options } history) := by
    intro history passed
    exact Writer.keeps_owed.atEnd_of_start start passed
  refine ⟨fun history passed => (owed history passed).unended, ?_⟩
  constructor
  · intro filled event member left empty
    obtain ⟨history, passed, reached⟩ := Writer.exists_atEnd_of_mem member { options }
    obtain ⟨entry, after⟩ := exists_leave_of_mem member left
    have owes : event.after.owesLine = true := by
      rcases Scope.leave_indentBlock_cases entry event.before with ⟨same, ended⟩ | ⟨same, _⟩
      · rw [after, same] at empty
        exact absurd empty (Writer.text_ne_nil_of_endsLine ended)
      · rw [after, same]
    rw [← reached] at owes empty
    exact (filled history passed owes).written empty
  · intro written history passed owes
    have known := owed history passed
    refine (Writer.owesFilled_iff owes (known.unended owes)).mpr ?_
    intro empty
    obtain ⟨event, member, left, emptyThen⟩ := known.origin owes empty
    exact written event (passed.subset member) left emptyThen

/-- Two indent blocks that end at once, and one with nothing in it at the start of a block. -/
theorem owesFilled_of_nested_blocks :
    let options : Options := { terminator := .crlf }
    let inner : Program := .within .indentBlock (.act (.write ['a']) .done) .done
    let program : Program :=
      .within .indentBlock inner (.within .block (.within .indentBlock .done .done) .done)
    let history := (program.trace { options }).take 5
    Writer.new options = .ok { options } ∧
      (∀ event ∈ program.trace { options }, event.moment = .left .indentBlock →
        event.after.text ≠ []) ∧
      (Writer.atEnd { options } history).owesLine = true ∧
      (Writer.atEnd { options } history).OwesFilled := by
  intro options inner program history
  have created : Writer.new options = .ok { options } := rfl
  have written : ∀ event ∈ program.trace { options }, event.moment = .left .indentBlock →
      event.after.text ≠ [] := by
    decide +kernel
  have owes : (Writer.atEnd { options } history).owesLine = true := by decide +kernel
  have filled := (owesFilled_iff_of_trace created program).2.mpr written
  exact ⟨created, written, owes, filled history (List.take_prefix 5 _) owes⟩

/-- An indent block that is the first of all, and left as it was entered, owes a line break for an
empty text, so that what is written next comes after an empty line. -/
theorem not_forall_owes_written :
    (¬ ∀ writer : Writer, writer.Reachable → writer.owesLine = true →
      writer.text ≠ [] ∧ writer.endsLine = false) ∧
    let program : Program := .within .indentBlock .done (.act (.write ['x']) .done)
    (program.run { options := {} }).text = ['\n', 'x'] := by
  refine ⟨?_, by decide +kernel⟩
  intro always
  let program : Program := .within .indentBlock .done .done
  have created : Writer.new {} = .ok { options := {} } := rfl
  have reachable := Writer.Reachable.atEnd created (List.prefix_refl (program.trace _))
  exact (always _ reachable rfl).1 rfl

end Program

end SourceWriter
